import PageTemplates.Expr.Evaluation
import PageTemplates.Template.Cache
import PageTemplates.Text.Markup
import PageTemplates.View

/-! # Rendering

The text that a template makes of a context. Values are escaped, and what has no value
renders nothing. An include renders the template of its view in the same context; an
include that fails renders nothing and adds an error.
-/

namespace PageTemplates

/-- The output of a render beside the errors met, in the order of the document. -/
@[ext]
structure Rendered where
  output : String
  errors : List RenderError

namespace Rendered

def nothing : Rendered := ⟨"", []⟩

def append (left right : Rendered) : Rendered :=
  ⟨left.output ++ right.output, left.errors ++ right.errors⟩

instance : Append Rendered := ⟨append⟩

@[simp]
theorem output_append (left right : Rendered) :
    (left ++ right).output = left.output ++ right.output := rfl

@[simp]
theorem errors_append (left right : Rendered) :
    (left ++ right).errors = left.errors ++ right.errors := rfl

@[simp]
theorem nothing_append (rendered : Rendered) : nothing ++ rendered = rendered := by
  ext <;> simp [nothing]

@[simp]
theorem append_nothing (rendered : Rendered) : rendered ++ nothing = rendered := by
  ext <;> simp [nothing]

theorem append_assoc (first second third : Rendered) :
    first ++ second ++ third = first ++ (second ++ third) := by
  ext <;> simp

def ofText (text : String) : Rendered := ⟨text, []⟩

def ofError (error : RenderError) : Rendered := ⟨"", [error]⟩

def ofValue (value : Value) : Rendered :=
  match value.shown? with
  | some text => ofText (Text.escapeMarkup text)
  | none => nothing

def isClean (rendered : Rendered) : Bool :=
  rendered.errors.isEmpty

end Rendered

structure Session (World : Type) where
  templates : TemplateCache
  views : Views
  world : World

namespace Session

variable {World : Type}

def compile (session : Session World) (source : String) : Template × Session World :=
  let (compiled, templates) := session.templates.get source
  (compiled.template, { session with templates := templates })

def load (storage : Storage World) (session : Session World) (name : String) :
    Except RenderError String × Session World :=
  let (content, views, world) := session.views.load storage name session.world
  (content, { session with views := views, world := world })

end Session

namespace Render

variable {World : Type}

def segment (follow : IncludeTarget → Session World → Rendered × Session World)
    (context : Context) (session : Session World) :
    Segment → Rendered × Session World
  | .text content => (.ofText content, session)
  | .path names => (.ofValue (context.lookup names), session)
  | .inclusion target => follow target session
  | .expression value =>
      match value.evaluate context with
      | .ok value => (.ofValue value, session)
      | .error _ => (.nothing, session)
  | .rejected => (.nothing, session)

def segments (follow : IncludeTarget → Session World → Rendered × Session World)
    (context : Context) : List Segment → Session World → Rendered × Session World
  | [], session => (.nothing, session)
  | first :: rest, session =>
      let (rendered, session) := segment follow context session first
      let (others, session) := segments follow context rest session
      (rendered ++ others, session)

/-- Render an include where `levels` more levels may be entered. -/
def inclusion (storage : Storage World) (context : Context) (levels : Nat)
    (target : IncludeTarget) (session : Session World) : Rendered × Session World :=
  let name := target.resolve context
  match levels with
  | 0 => (.ofError (.includeTooDeep name), session)
  | levels + 1 =>
      match session.load storage name with
      | (.error error, session) => (.ofError error, session)
      | (.ok content, session) =>
          let (template, session) := session.compile content
          segments (inclusion storage context levels) context template.segments session

/-- Render a template where `levels` levels of includes may be entered. -/
def template (storage : Storage World) (context : Context) (levels : Nat)
    (template : Template) (session : Session World) : Rendered × Session World :=
  segments (inclusion storage context levels) context template.segments session

end Render

def Template.render {World : Type} (storage : Storage World) (template : Template)
    (context : Context) (session : Session World) : Rendered × Session World :=
  Render.template storage context includeLevels template session

end PageTemplates
