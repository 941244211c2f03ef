import PageTemplates.Proofs.Scan.Reading

/-! # Spelled tokens

Texts that stand for tokens, and the tokens that the scanner finds when such texts follow one
another with spaces between them: each text is read as the token that it stands for.
-/

namespace PageTemplates.Token

/-! ## Spellings -/

/-- What a character is in a string between single quotes. -/
def escapedCharacter (character : Char) : List Char :=
  if character = '\'' then ['\\', '\'']
  else if character = '\\' then ['\\', '\\']
  else if character = '\n' then ['\\', 'n']
  else if character = '\r' then ['\\', 'r']
  else [character]

def quotedString (value : String) : String :=
  String.ofList ('\'' :: (value.toList.flatMap escapedCharacter ++ ['\'']))

example : quotedString "it's\n" = "'it\\'s\\n'" := by decide

/-- The texts that stand for a token. A number has every text that is read as it, from its
first byte to its last. -/
inductive Spelled : Token → String → Prop
  | number {value : Float} {text : String} :
      scan text = .ok [⟨.number value, 0, byteLength text.toList⟩] →
      Spelled (.number value) text
  | string (value : String) : Spelled (.string value) (quotedString value)
  | word (name : String) : Spelled (.word name) name
  | symbol (spelling : String) : Spelled (.symbol spelling) spelling

/-- Whether words have the form of names and symbols are among the known ones. -/
def isLexable : Token → Bool
  | .word name => isName name.toList
  | .symbol spelling => symbols.contains spelling
  | .number _ | .string _ => true

/-! ## Strings -/

theorem isReadAs_literal {quote : Char} (isQuote : IsQuote quote) {value : String}
    {body : List Char} (encodes : Encodes quote value.toList body) :
    IsReadAs (.string value) (String.ofList (quote :: (body ++ [quote]))) := by
  have read := isReadAs_quoted isQuote (encodes.scanUnits isQuote)
  rwa [Text.ofUnits_flatMap_characterUnits, String.ofList_toList] at read

theorem isForm_escapedCharacter (character : Char) :
    IsForm '\'' character (escapedCharacter character) := by
  by_cases quote : character = '\''
  · subst quote
    exact .escaped (by decide) (by decide) (by decide)
  by_cases backslash : character = '\\'
  · subst backslash
    exact .escaped (by decide) (by decide) (by decide)
  by_cases lineFeed : character = '\n'
  · subst lineFeed
    exact .letter (by decide)
  by_cases carriageReturn : character = '\r'
  · subst carriageReturn
    exact .letter (by decide)
  simp only [escapedCharacter, if_neg quote, if_neg backslash, if_neg lineFeed,
    if_neg carriageReturn]
  exact .itself (by simp [quote, backslash, lineFeed, carriageReturn])

theorem encodes_flatMap_escapedCharacter (text : List Char) :
    Encodes '\'' text (text.flatMap escapedCharacter) := by
  induction text with
  | nil => exact .nil
  | cons character text induction =>
      exact .character (isForm_escapedCharacter character) induction

theorem isReadAs_string (value : String) : IsReadAs (.string value) (quotedString value) :=
  isReadAs_literal (.inl rfl) (encodes_flatMap_escapedCharacter value.toList)

/-- A string is read back from whatever forms its characters are spelled in, and wherever
its lines are broken. -/
theorem scan_literal {quote : Char} (isQuote : quote = '\'' ∨ quote = '"') {value : String}
    {body : List Char} (encodes : Encodes quote value.toList body) :
    scan (String.ofList (quote :: (body ++ [quote]))) =
      .ok [⟨.string value, 0, byteLength (quote :: (body ++ [quote]))⟩] := by
  have read := (isReadAs_literal isQuote encodes).scan
  rwa [String.toList_ofList] at read

/-! A text with every form once, and a line broken in the middle. -/

namespace EveryForm

def text : List Char := ['a', 'é', '"', '\n', 'Ω', '😀', 'z']

def body : List Char :=
  ['a', '\\', 'x', 'e', '9', '\\', '"', '\\', '\r', '\n', '\\', 'n',
    '\\', 'u', '0', '3', 'A', '9',
    '\\', 'u', 'd', '8', '3', 'd', '\\', 'u', 'D', 'E', '0', '0',
    '\\', 'u', '\x7b', '0', '0', '0', '0', '7', 'a', '\x7d']

end EveryForm

open EveryForm in
theorem scan_literal_of_forms :
    Encodes '"' text body ∧
      scan (String.ofList ('"' :: (body ++ ['"']))) =
        .ok [⟨.string (String.ofList text), 0, 42⟩] := by
  have byte : IsForm '"' 'é' ['\\', 'x', 'e', '9'] :=
    .byte (by decide) rfl (by decide)
  have unit : IsForm '"' 'Ω' ['\\', 'u', '0', '3', 'A', '9'] :=
    .unit (by decide) rfl (by decide)
  have surrogates : IsForm '"' '😀'
      ['\\', 'u', 'd', '8', '3', 'd', '\\', 'u', 'D', 'E', '0', '0'] :=
    @IsForm.surrogates '"' '😀' ['d', '8', '3', 'd'] ['D', 'E', '0', '0'] (by decide) rfl rfl
      (by decide) (by decide)
  have codePoint : IsForm '"' 'z' ['\\', 'u', '\x7b', '0', '0', '0', '0', '7', 'a', '\x7d'] :=
    @IsForm.codePoint '"' 'z' ['0', '0', '0', '0', '7', 'a'] (by decide)
      (by decide)
  have plain : IsForm '"' 'a' ['a'] := .itself (by decide)
  have quote : IsForm '"' '"' ['\\', '"'] := .escaped (by decide) (by decide) (by decide)
  have feed : IsForm '"' '\n' ['\\', 'n'] := .letter (by decide)
  have broken : ['\r', '\n'] ∈ lineEndings := by decide
  have encodes : Encodes '"' text body :=
    .character plain <| .character byte <| .character quote <| .continuation broken <|
      .character feed <| .character unit <| .character surrogates <|
        .character codePoint .nil
  have spelled : Encodes '"' (String.ofList text).toList body := by
    rwa [String.toList_ofList]
  exact ⟨encodes, scan_literal (.inr rfl) spelled⟩

/-! ## Successive tokens -/

theorem Spelled.isReadAs {token : Token} {text : String} (spelled : Spelled token text)
    (lexable : isLexable token = true) : IsReadAs token text := by
  cases spelled with
  | number scanned => exact isReadAs_of_scan scanned
  | string value => exact isReadAs_string value
  | word name => exact isReadAs_word lexable
  | symbol spelling => exact isReadAs_symbol (List.contains_iff_mem.mp lexable)

theorem scan_intercalate {tokens : List Token} {texts : List String}
    (spelled : List.Forall₂ Spelled tokens texts)
    (lexable : ∀ token ∈ tokens, isLexable token = true) :
    ∃ placed, scan (" ".intercalate texts) = .ok placed ∧ placed.map (·.token) = tokens := by
  refine scan_intercalate_of_isReadAs ?_
  induction spelled with
  | nil => exact .nil
  | cons first rest induction =>
      rw [List.forall_mem_cons] at lexable
      exact .cons (first.isReadAs lexable.1) (induction lexable.2)

end PageTemplates.Token
