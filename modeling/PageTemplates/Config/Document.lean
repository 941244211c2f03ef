import PageTemplates.Number.Reading
import PageTemplates.Text.Lines
import PageTemplates.Text.Split

/-! # Configuration documents

A document is a mapping written either line by line, as `key: value`, or in braces like
JSON. A scalar without quotes is plain; what it means depends on what is asked of it.
-/

namespace PageTemplates

namespace Config

inductive Node
  | plain (text : String)
  | quoted (text : String)
  | list (items : List Node)
  | mapping (entries : List (Node × Node))
  deriving Repr

namespace Node

/-! ## Characters -/

private def isGap (character : Char) : Bool :=
  character = ' ' || character = '\t' || character = '\n'

private def dropGap (text : List Char) : List Char :=
  text.dropWhile isGap

/-- The characters that end a plain scalar inside braces and brackets. -/
def isFlowMark (character : Char) : Bool :=
  "[],\x7b\x7d".toList.contains character

def isIndicator (character : Char) : Bool :=
  isGap character || isFlowMark character || "&*!|>%@#'\"\x60".toList.contains character

/-! ## Quoted scalars -/

/-- A text in single quotes, after the first one: a quote inside is written twice. -/
def readSingle? : List Char → Option (List Char × List Char)
  | [] => none
  | '\'' :: '\'' :: rest => (readSingle? rest).map fun (text, after) => ('\'' :: text, after)
  | '\'' :: rest => some ([], rest)
  | character :: rest =>
      if character = '\n' then none
      else (readSingle? rest).map fun (text, after) => (character :: text, after)

/-- The character that a letter after a backslash stands for. -/
def escapedLetter? : Char → Option Char
  | '0' => some '\x00'
  | 'a' => some '\x07'
  | 'b' => some '\x08'
  | 't' => some '\t'
  | '\t' => some '\t'
  | 'n' => some '\n'
  | 'v' => some '\x0b'
  | 'f' => some '\x0c'
  | 'r' => some '\r'
  | 'e' => some '\x1b'
  | ' ' => some ' '
  | '"' => some '"'
  | '/' => some '/'
  | '\\' => some '\\'
  | 'N' => some '\u0085'
  | '_' => some '\u00a0'
  | 'L' => some '\u2028'
  | 'P' => some '\u2029'
  | _ => none

def escapedNumber? (digits : List Char) : Option Char :=
  let number := Number.ofDigits 16 digits
  if digits.all (Number.isDigitOf 16) && number.isValidChar then some (Char.ofNat number)
  else none

/-- The character that is written with a number of hexadecimal digits. -/
private def takeNumber? (count : Nat) (text : List Char) : Option (Char × List Char) :=
  if (text.take count).length = count then
    (escapedNumber? (text.take count)).map fun character => (character, text.drop count)
  else
    none

def readEscape? : List Char → Option (Char × List Char)
  | [] => none
  | 'x' :: rest => takeNumber? 2 rest
  | 'u' :: rest => takeNumber? 4 rest
  | 'U' :: rest => takeNumber? 8 rest
  | letter :: rest => (escapedLetter? letter).map fun character => (character, rest)

/-- A text in double quotes, after the first one. Every step takes a character, so the
length of the text is fuel enough. -/
def readDouble? : Nat → List Char → Option (List Char × List Char)
  | _, '"' :: rest => some ([], rest)
  | fuel + 1, '\\' :: rest =>
      match readEscape? rest with
      | none => none
      | some (character, rest) =>
          (readDouble? fuel rest).map fun (text, after) => (character :: text, after)
  | fuel + 1, character :: rest =>
      if character = '\n' then none
      else (readDouble? fuel rest).map fun (text, after) => (character :: text, after)
  | _, _ => none

/-! ## Plain scalars -/

/-- Whether a colon before this text ends a plain scalar, where `ends` tells which
characters end one as well. -/
private def followsColon (ends : Char → Bool) : List Char → Bool
  | [] => true
  | next :: _ => isGap next || ends next

/-- A plain scalar up to a colon, a comment, the end of the line or a character that
ends it. -/
def cutPlain (ends : Char → Bool) : List Char → List Char × List Char
  | [] => ([], [])
  | character :: rest =>
      if character = '\n' || ends character || (character = ':' && followsColon ends rest) ||
          (isGap character && rest.head? = some '#') then
        ([], character :: rest)
      else
        let (text, after) := cutPlain ends rest
        (character :: text, after)

def startsPlain (ends : Char → Bool) : List Char → Bool
  | [] => false
  | first :: rest =>
      !isIndicator first && !("-?:".toList.contains first && followsColon ends rest)

def readScalar? (ends : Char → Bool) : List Char → Option (Node × List Char)
  | '"' :: rest =>
      (readDouble? rest.length rest).map fun (text, after) => (.quoted (String.ofList text), after)
  | '\'' :: rest =>
      (readSingle? rest).map fun (text, after) => (.quoted (String.ofList text), after)
  | text =>
      if startsPlain ends text then
        let (scalar, after) := cutPlain ends text
        some (.plain (String.ofList (scalar.reverse.dropWhile isGap).reverse), after)
      else
        none

/-! ## Braces and brackets -/

mutual

/-- A value inside braces or brackets. Every step takes a character or goes one part
further, so twice the length of the text is fuel enough. -/
def readFlow? : Nat → List Char → Option (Node × List Char)
  | 0, _ => none
  | fuel + 1, '[' :: rest =>
      (readItems? fuel (dropGap rest)).map fun (items, after) => (.list items, after)
  | fuel + 1, '\x7b' :: rest =>
      (readEntries? fuel (dropGap rest)).map fun (entries, after) => (.mapping entries, after)
  | _ + 1, text => readScalar? isFlowMark text

def readItems? : Nat → List Char → Option (List Node × List Char)
  | 0, _ => none
  | _ + 1, ']' :: rest => some ([], rest)
  | fuel + 1, text =>
      match readFlow? fuel text with
      | none => none
      | some (item, rest) =>
          match dropGap rest with
          | ',' :: rest =>
              (readItems? fuel (dropGap rest)).map fun (items, after) => (item :: items, after)
          | ']' :: rest => some ([item], rest)
          | _ => none

/-- The entries up to a closing brace. A key without a value has an empty one. -/
def readEntries? : Nat → List Char → Option (List (Node × Node) × List Char)
  | 0, _ => none
  | _ + 1, '\x7d' :: rest => some ([], rest)
  | fuel + 1, text =>
      match readFlow? fuel text with
      | none => none
      | some (key, rest) =>
          match readValue? fuel (dropGap rest) with
          | none => none
          | some (value, rest) =>
              match dropGap rest with
              | ',' :: rest =>
                  (readEntries? fuel (dropGap rest)).map fun (entries, after) =>
                    ((key, value) :: entries, after)
              | '\x7d' :: rest => some ([(key, value)], rest)
              | _ => none

def readValue? : Nat → List Char → Option (Node × List Char)
  | 0, _ => none
  | fuel + 1, ':' :: rest =>
      match dropGap rest with
      | ',' :: after => some (.plain "", ',' :: after)
      | '\x7d' :: after => some (.plain "", '\x7d' :: after)
      | value => readFlow? fuel value
  | _ + 1, text => some (.plain "", text)

end

/-- Whether nothing follows but perhaps a comment after a space. -/
def isLineEnd (text : List Char) : Bool :=
  match dropGap text with
  | [] => true
  | first :: _ => first = '#' && text.head?.any isGap

private def startsFlow : List Char → Bool
  | '[' :: _ => true
  | '\x7b' :: _ => true
  | _ => false

def ofFlow? (text : List Char) : Option Node :=
  match readFlow? (2 * text.length) text with
  | some (node, rest) => if isLineEnd rest then some node else none
  | none => none

/-! ## Lines -/

def ofLineValue? (text : List Char) : Option Node :=
  if isLineEnd text then
    some (.plain "")
  else if startsFlow (dropGap text) then
    ofFlow? (dropGap text)
  else
    match readScalar? (fun _ => false) (dropGap text) with
    | some (value, rest) => if isLineEnd rest then some value else none
    | none => none

def ofLine? (line : List Char) : Option (Node × Node) :=
  match readScalar? (fun _ => false) line with
  | none => none
  | some (key, rest) =>
      match dropGap rest with
      | ':' :: value =>
          if value.isEmpty || value.head?.any isGap then
            (ofLineValue? value).map fun value => (key, value)
          else
            none
      | _ => none

private def isIdle (line : List Char) : Bool :=
  match dropGap line with
  | [] => true
  | first :: _ => first = '#'

private def indentation (line : List Char) : Nat :=
  (line.takeWhile (· = ' ')).length

/-- A document of entries, one a line and all at one indentation. A first line of three
dashes opens a document. -/
def ofLines? (lines : List (List Char)) : Option Node :=
  let entries :=
    match lines.filter (!isIdle ·) with
    | ['-', '-', '-'] :: rest => rest
    | lines => lines
  match entries with
  | [] => some (.mapping [])
  | first :: _ =>
      if entries.all (indentation · = indentation first) then
        (entries.mapM fun line => ofLine? (line.drop (indentation first))).map .mapping
      else
        none

/-- The document that a text spells. A byte order mark before it does not count. -/
def ofText? (text : String) : Option Node :=
  let characters :=
    match Text.joinLineEnds text.toList with
    | '\uFEFF' :: rest => rest
    | characters => characters
  if startsFlow (dropGap characters) then
    ofFlow? (dropGap characters)
  else
    ofLines? (Text.splitAt '\n' characters)

end Node

end Config

end PageTemplates
