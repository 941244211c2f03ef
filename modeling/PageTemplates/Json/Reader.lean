import PageTemplates.Json
import PageTemplates.Number.Reading
import PageTemplates.Text.Units

/-! # JSON text

Reading a document. A whole number that fits 64 bits is kept exactly; any other number
becomes the nearest double. Minus zero is a double, since no whole number has its sign.
-/

namespace PageTemplates.Json

def isSpace (character : Char) : Bool :=
  character = ' ' || character = '\t' || character = '\n' || character = '\r'

def skipSpace (text : List Char) : List Char :=
  text.dropWhile isSpace

/-- The characters of a number, from its first on. -/
private def isNumberCharacter (character : Char) : Bool :=
  Number.isDecimalCharacter character

/-- Whether digits form a whole part: no digit before them but a single zero. -/
private def isWholePart : List Char → Bool
  | [] => false
  | ['0'] => true
  | first :: rest => first ≠ '0' && (first :: rest).all Char.isDigit

def numberOf? (text : List Char) : Option JsonNumber :=
  let (negative, body) :=
    match text with
    | '-' :: rest => (true, rest)
    | rest => (false, rest)
  let whole := body.takeWhile Char.isDigit
  let rest := body.dropWhile Char.isDigit
  if !isWholePart whole then
    none
  else
    match rest with
    | [] =>
        let magnitude := Number.ofDigits 10 whole
        if negative && (magnitude = 0 || 0x8000000000000000 < magnitude) then
          (Number.readDecimal? text).map .double
        else if negative then
          some (.whole (-magnitude))
        else if magnitude < 0x10000000000000000 then
          some (.whole magnitude)
        else
          (Number.readDecimal? text).map .double
    | '.' :: digit :: _ =>
        if digit.isDigit then (Number.readDecimal? text).map .double else none
    | '.' :: [] => none
    | _ => (Number.readDecimal? text).map .double

example : numberOf? "-12".toList = some (.whole (-12)) := by decide +kernel

example : numberOf? "-0".toList = some (.double (-0.0)) := by decide +kernel

/-- Four hexadecimal digits as a code unit, and what follows them. -/
private def readUnit? (text : List Char) : Option (Text.CodeUnit × List Char) :=
  let digits := text.take 4
  if digits.length = 4 && digits.all (Number.isDigitOf 16) then
    some ((Number.ofDigits 16 digits).toUInt16, text.drop 4)
  else
    none

/-- The character that a letter after a backslash stands for. -/
private def escaped? : Char → Option Char
  | '"' => some '"'
  | '\\' => some '\\'
  | '/' => some '/'
  | 'b' => some '\x08'
  | 'f' => some '\x0c'
  | 'n' => some '\n'
  | 'r' => some '\r'
  | 't' => some '\t'
  | _ => none

/-- The units of a string up to its closing quote, and what follows the quote. Every
step takes a character, so `fuel` need not exceed the number of characters. -/
private def stringUnits? : (fuel : Nat) → List Char →
    Option (List Text.CodeUnit × List Char)
  | 0, _ => none
  | _ + 1, [] => none
  | fuel + 1, first :: rest =>
      let followedBy (head : List Text.CodeUnit) (tail : List Char) :=
        (stringUnits? fuel tail).map fun (units, others) => (head ++ units, others)
      if first = '"' then
        some ([], rest)
      else if first.toNat < 0x20 then
        none
      else if first = '\\' then
        match rest with
        | 'u' :: digits =>
            match readUnit? digits with
            | some (unit, others) => followedBy [unit] others
            | none => none
        | letter :: others =>
            match escaped? letter with
            | some character => followedBy (Text.characterUnits character) others
            | none => none
        | [] => none
      else
        followedBy (Text.characterUnits first) rest

def readString? (text : List Char) : Option (String × List Char) :=
  (stringUnits? (text.length + 1) text).map fun (units, rest) =>
    (String.ofList (Text.ofUnits units), rest)

mutual

/-- The value at the start of a text, and what follows it. Every call passes a
character, so `fuel` need not exceed twice their number. -/
private def readValue? : (fuel : Nat) → List Char → Option (Json × List Char)
  | 0, _ => none
  | fuel + 1, text =>
      match skipSpace text with
      | 'n' :: 'u' :: 'l' :: 'l' :: rest => some (.null, rest)
      | 't' :: 'r' :: 'u' :: 'e' :: rest => some (.boolean true, rest)
      | 'f' :: 'a' :: 'l' :: 's' :: 'e' :: rest => some (.boolean false, rest)
      | '"' :: rest => (readString? rest).map fun (value, others) => (.string value, others)
      | '[' :: rest =>
          match skipSpace rest with
          | ']' :: others => some (.array [], others)
          | others => (readItems? fuel others).map fun (items, tail) => (.array items, tail)
      | '\x7b' :: rest =>
          match skipSpace rest with
          | '\x7d' :: others => some (.object [], others)
          | others =>
              (readEntries? fuel others).map fun (entries, tail) => (ofEntries entries, tail)
      | rest =>
          (numberOf? (rest.takeWhile isNumberCharacter)).map fun number =>
            (.number number, rest.dropWhile isNumberCharacter)

/-- The items of an array from the first one on, past the closing bracket. -/
private def readItems? : (fuel : Nat) → List Char → Option (List Json × List Char)
  | 0, _ => none
  | fuel + 1, text =>
      match readValue? fuel text with
      | none => none
      | some (item, rest) =>
          match skipSpace rest with
          | ',' :: others =>
              (readItems? fuel others).map fun (items, tail) => (item :: items, tail)
          | ']' :: others => some ([item], others)
          | _ => none

/-- The entries of an object from the first one on, past the closing brace. -/
private def readEntries? : (fuel : Nat) → List Char →
    Option (List (String × Json) × List Char)
  | 0, _ => none
  | fuel + 1, text =>
      match skipSpace text with
      | '"' :: keyText =>
          match readString? keyText with
          | none => none
          | some (key, afterKey) =>
              match skipSpace afterKey with
              | ':' :: valueText =>
                  match readValue? fuel valueText with
                  | none => none
                  | some (value, rest) =>
                      match skipSpace rest with
                      | ',' :: others =>
                          (readEntries? fuel others).map fun (entries, tail) =>
                            ((key, value) :: entries, tail)
                      | '\x7d' :: others => some ([(key, value)], others)
                      | _ => none
              | _ => none
      | _ => none

end

def read? (text : String) : Option Json :=
  let characters := text.toList
  match readValue? (2 * characters.length + 2) characters with
  | some (value, rest) => if (skipSpace rest).isEmpty then some value else none
  | none => none

end PageTemplates.Json
