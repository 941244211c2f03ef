import PageTemplates.Json
import PageTemplates.Number.Style

/-! # JSON text, written

The compact text of a document: no space between its parts, and in strings an escape
only where one is needed.
-/

namespace PageTemplates.Json

/-- How a character stands in a string: quotes, backslashes and control characters are
escaped. -/
def writeCharacter (character : Char) : List Char :=
  if character = '"' || character = '\\' then
    ['\\', character]
  else if character = '\n' then
    ['\\', 'n']
  else if character.toNat < 0x20 then
    let digits := Nat.toDigits 16 character.toNat
    '\\' :: 'u' :: List.replicate (4 - digits.length) '0' ++ digits
  else
    [character]

def writeString (value : String) : String :=
  String.ofList ('"' :: value.toList.flatMap writeCharacter ++ ['"'])

example : writeString "a\"\x01" = "\"a\\\"\\u0001\"" := by decide +kernel

/-- A double has a point or an exponent, which a whole number has not. What is not
finite is null. -/
def writeNumber : JsonNumber → String
  | .whole value => toString value
  | .double value =>
      match ofFloat value with
      | .null => "null"
      | _ => Number.Style.message.write value

mutual

def write : Json → String
  | .null => "null"
  | .boolean true => "true"
  | .boolean false => "false"
  | .number value => writeNumber value
  | .string value => writeString value
  | .array items => "[" ++ ",".intercalate (writeItems items) ++ "]"
  | .object entries => "\x7b" ++ ",".intercalate (writeEntries entries) ++ "\x7d"

def writeItems : List Json → List String
  | [] => []
  | item :: rest => item.write :: writeItems rest

def writeEntries : List (String × Json) → List String
  | [] => []
  | (key, value) :: rest => (writeString key ++ ":" ++ value.write) :: writeEntries rest

end

example : (Json.array [.number (.whole (-1)), .null, .object [("a", .string "b")]]).write =
    "[-1,null,\x7b\"a\":\"b\"\x7d]" := by decide +kernel

end PageTemplates.Json
