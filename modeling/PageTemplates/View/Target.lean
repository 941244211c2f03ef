import PageTemplates.Context
import PageTemplates.Render.Error
import PageTemplates.Template.Segment

/-! # Names of views

An include names a view, or a place in the data where the name of the view is found.
A name is accepted only if it cannot lead out of the directory of the views.
-/

namespace PageTemplates

/-- The name of the view that an include asks for. A target that is a dotted path is
looked up first, and a string found there replaces it unless the string is empty. -/
def IncludeTarget.resolve (target : IncludeTarget) (context : Context) : String :=
  if Segment.isPath target.text.toList then
    match context.lookupDotted target.text with
    | .string found => if found.isEmpty then target.text else found
    | _ => target.text
  else
    target.text

namespace ViewName

def isAllowed (character : Char) : Bool :=
  Text.isAsciiWord character || character = '_' || character = '-' || character = '/'

/-- Whether a name might lead out of a directory: it goes up somewhere or starts at the
root. -/
def leadsOut (name : List Char) : Bool :=
  Text.occurs ['.', '.'] name || name.head? = some '/' || name.head? = some '\\'

def refusal? (name : String) : Option RenderError :=
  if leadsOut name.toList then
    some (.pathTraversal name)
  else if name.isEmpty || !name.toList.all isAllowed then
    some (.illegalCharacters name)
  else
    none

example : refusal? "partials/nav-bar_2" = none := by decide +kernel

example : refusal? "a/../b" = some (.pathTraversal "a/../b") := by decide +kernel

example : refusal? "a.b" = some (.illegalCharacters "a.b") := by decide +kernel

end ViewName

end PageTemplates
