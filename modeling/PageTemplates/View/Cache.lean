import PageTemplates.Dictionary
import PageTemplates.Storage

/-! # Kept views

The contents of view files under the components of their paths. What is kept counts as
fresh while the file has the modification time it had when it was read, and for a
limited time only.
-/

namespace PageTemplates

structure KeptView where
  content : String
  modified : Time
  /-- When the content was stored, in milliseconds. -/
  storedAt : Nat
  deriving Repr

structure ViewCache where
  entries : Dictionary (List Component) KeptView
  /-- How many milliseconds a content stays fresh. -/
  lifetime : Nat
  deriving Repr

namespace ViewCache

def empty (lifetime : Nat) : ViewCache := ⟨[], lifetime⟩

/-- The content kept for a path, if the file still has the time `modified` and less
than the lifetime has passed. -/
def fresh? (cache : ViewCache) (path : Path) (modified : Time) (now : Nat) :
    Option String :=
  match Dictionary.get? cache.entries path.components with
  | some kept =>
      if kept.modified = modified && now - kept.storedAt < cache.lifetime then
        some kept.content
      else
        none
  | none => none

def store (cache : ViewCache) (path : Path) (content : String) (modified : Time)
    (now : Nat) : ViewCache :=
  { cache with
    entries := Dictionary.put path.components ⟨content, modified, now⟩ cache.entries }

/-- Forget the content kept for a path, and tell whether there was one. -/
def invalidate (cache : ViewCache) (path : Path) : Bool × ViewCache :=
  (Dictionary.has cache.entries path.components,
    { cache with entries := Dictionary.erase path.components cache.entries })

/-- Forget what is kept for a directory and the paths under it. -/
def invalidateUnder (cache : ViewCache) (directory : Path) : ViewCache :=
  { cache with
    entries := cache.entries.filter fun entry => !directory.covers entry.1 }

def clear (cache : ViewCache) : ViewCache :=
  { cache with entries := [] }

def size (cache : ViewCache) : Nat :=
  cache.entries.length

def isEmpty (cache : ViewCache) : Bool :=
  cache.entries.isEmpty

end ViewCache

end PageTemplates
