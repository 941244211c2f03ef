import PageTemplates.Dictionary
import PageTemplates.Template

/-! # Compiled templates

Templates are compiled once and kept under their source until the cache is cleared.
Every compilation has a serial number of its own, so that two requests got the same
compilation exactly when the serial numbers agree.
-/

namespace PageTemplates

structure CompiledTemplate where
  serial : Nat
  template : Template

structure TemplateCache where
  entries : Dictionary String CompiledTemplate
  next : Nat

namespace TemplateCache

def empty : TemplateCache := ⟨[], 0⟩

/-- The template of a source, compiled if it is not kept. -/
def get (cache : TemplateCache) (source : String) : CompiledTemplate × TemplateCache :=
  match Dictionary.get? cache.entries source with
  | some compiled => (compiled, cache)
  | none =>
      let compiled : CompiledTemplate := ⟨cache.next, Template.compile source⟩
      (compiled, ⟨Dictionary.put source compiled cache.entries, cache.next + 1⟩)

/-- Forget all templates. Serial numbers go on. -/
def clear (cache : TemplateCache) : TemplateCache :=
  ⟨[], cache.next⟩

def size (cache : TemplateCache) : Nat :=
  cache.entries.length

end TemplateCache

end PageTemplates
