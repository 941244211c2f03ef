import PageTemplates.Json

/-! # Pages

What a request for a page is answered with: the document, or a failure.
-/

namespace PageTemplates

inductive PageFailure
  /-- There is no scheme of the name, or it is empty. -/
  | schemeNotFound
  /-- Some include failed, and errors are not ignored. -/
  | renderFailed
  deriving Repr, DecidableEq

namespace PageFailure

def status : PageFailure → Nat
  | schemeNotFound => 404
  | renderFailed => 500

def message : PageFailure → String
  | schemeNotFound => "Html scheme not found."
  | renderFailed => "Internal Server Error."

def toJson (failure : PageFailure) : Json :=
  .object [("message", .string failure.message),
    ("status", .number (.whole failure.status))]

end PageFailure

inductive Page
  | html (text : String)
  | failure (reason : PageFailure)
  deriving Repr, DecidableEq

namespace Page

def status : Page → Nat
  | html _ => 200
  | failure reason => reason.status

def html? : Page → Option String
  | html text => some text
  | failure _ => none

def toJson? : Page → Option Json
  | html _ => none
  | failure reason => some reason.toJson

end Page

end PageTemplates
