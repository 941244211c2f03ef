import PageTemplates.Config
import PageTemplates.Config.Document
import PageTemplates.Storage

/-! # Reading configurations

A document sets what it has a known key for, and everything else keeps its standard.
Unknown keys are passed over, whatever their value. A known key may stand only once.
-/

namespace PageTemplates

namespace Config

inductive ReadError
  | unreadable (path : Path) (failure : Failure)
  | malformed
  deriving Repr, DecidableEq

def ReadError.message : ReadError → String
  | unreadable path failure =>
      "cannot read configuration `" ++ path.text ++ "`: " ++ failure.text
  | malformed => "invalid configuration"

namespace Node

def text? : Node → Option String
  | plain text => some text
  | quoted text => some text
  | _ => none

def isAbsent (text : String) : Bool :=
  ["", "~", "null", "Null", "NULL"].contains text

/-- A text or the absent value. Any other plain scalar is a text. -/
def optionalText? : Node → Option (Option String)
  | plain text => some (if isAbsent text then none else some text)
  | quoted text => some (some text)
  | _ => none

def boolean? : Node → Option Bool
  | plain "true" | plain "True" | plain "TRUE" => some true
  | plain "false" | plain "False" | plain "FALSE" => some false
  | _ => none

/-- The number of digits in a radix, if it fits 64 bits. -/
private def wholeOf? (radix : Nat) (digits : List Char) : Option Nat :=
  if !digits.isEmpty && digits.all (Number.isDigitOf radix) &&
      Number.ofDigits radix digits < 0x10000000000000000 then
    some (Number.ofDigits radix digits)
  else
    none

/-- A whole number of 64 bits without a fraction, perhaps after a plus sign or a mark of
its radix. Decimal digits do not begin with a zero before others. -/
def whole? : Node → Option Nat
  | plain text =>
      let digits :=
        match text.toList with
        | '+' :: rest => rest
        | rest => rest
      match digits with
      | '0' :: 'x' :: rest => wholeOf? 16 rest
      | '0' :: 'o' :: rest => wholeOf? 8 rest
      | '0' :: 'b' :: rest => wholeOf? 2 rest
      | '0' :: _ :: _ => none
      | digits => wholeOf? 10 digits
  | _ => none

example : whole? (.plain "0x1F") = some 31 := by decide +kernel

example : whole? (.plain "007") = none := by decide +kernel

end Node

/-- The value of a key that may stand once. -/
def setting? {α : Type} (entries : List (String × Node)) (key : String)
    (read : Node → Option α) (standard : α) : Option α :=
  match entries.filter (·.1 = key) with
  | [] => some standard
  | [entry] => read entry.2
  | _ => none

def ofNode? : Node → Option Config
  | .mapping entries => do
      let named ← entries.mapM fun (key, value) => key.text?.map fun key => (key, value)
      let views? ← setting? named "views" Node.optionalText? none
      return {
        views? := views?.map Path.mk
        lifetime := ← setting? named "views_cache_ttl" Node.whole? standard.lifetime
        ignoreErrors := ← setting? named "ignore_errors" Node.boolean? standard.ignoreErrors
        defaultScheme? := ← setting? named "default_scheme" Node.optionalText? none
        watchViews := ← setting? named "watch_views" Node.boolean? standard.watchViews }
  | _ => none

def ofText? (text : String) : Option Config :=
  (Node.ofText? text).bind ofNode?

example : ofText? "views: /srv/views # here\nignore_errors: true\nunknown_key: 1\n" =
    some { standard with views? := some ⟨"/srv/views"⟩, ignoreErrors := true } := by
  decide +kernel

example : ofText? "\x7b \"views_cache_ttl\": 250, \"default_scheme\": 5 \x7d" =
    some { standard with lifetime := 250, defaultScheme? := some "5" } := by decide +kernel

example : ofText? "views: /a\nviews: /b\n" = none := by decide +kernel

/-- The configuration in a file, where `content` is what reading the file gave. -/
def ofFile (path : Path) (content : Except Failure String) : Except ReadError Config :=
  match content with
  | .error failure => .error (.unreadable path failure)
  | .ok text =>
      match ofText? text with
      | some config => .ok config
      | none => .error .malformed

end Config

end PageTemplates
