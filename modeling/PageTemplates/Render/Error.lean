import PageTemplates.Storage

/-! # Render errors

What can go wrong with an include. None of it stops a render: the include renders
nothing and the error is reported beside the output.
-/

namespace PageTemplates

def includeLevels : Nat := 64

inductive RenderError
  | missingViewsDirectory
  | pathTraversal (target : String)
  | illegalCharacters (target : String)
  | viewNotFound (path : Path)
  | unreadableView (path : Path) (failure : Failure)
  | includeTooDeep (target : String)
  | unresolvedScheme (name : String)
  deriving Repr, DecidableEq

namespace RenderError

def message : RenderError → String
  | missingViewsDirectory => "views directory not configured"
  | pathTraversal target => "invalid include file path `" ++ target ++ "`"
  | illegalCharacters target =>
      "include file name `" ++ target ++ "` contains illegal characters"
  | viewNotFound path => "view file `" ++ path.text ++ "` not found"
  | unreadableView path failure =>
      "cannot read view file `" ++ path.text ++ "`: " ++ failure.text
  | includeTooDeep target =>
      "include of `" ++ target ++ "` nested deeper than " ++ toString includeLevels ++
        " levels"
  | unresolvedScheme name => "html scheme `" ++ name ++ "` not found"

/-- The error of a view whose file a call to the storage failed on. -/
def ofFailure (path : Path) (failure : Failure) : RenderError :=
  match failure.kind with
  | .notFound => viewNotFound path
  | _ => unreadableView path failure

end RenderError

end PageTemplates
