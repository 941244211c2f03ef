import PageTemplates.Expr.Token
import PageTemplates.Number.Reading
import PageTemplates.Text.Letter
import PageTemplates.Text.Split
import PageTemplates.Text.Units

/-! # From source to tokens

A token is the longest that begins where the last one ended and blanks and comments are
skipped. Every step returns what it leaves of the source; a refusal returns it too, and
so tells where it arose.
-/

namespace PageTemplates.Token

/-- A refusal and what was left of the source when it arose. -/
abbrev Refused := ParseCause × List Char

/-! ## Names -/

def isNameStart (character : Char) : Bool :=
  character = '_' || character = '$' || Text.isLetter character

def isNameCharacter (character : Char) : Bool :=
  character = '_' || character = '$' || Text.isLetter character || Text.isNumeral character

/-! ## Blanks and comments -/

def isLineEnd (character : Char) : Bool :=
  character = '\n' || character = '\r' || character = '\u2028' || character = '\u2029'

/-- The source from its next token on. A comment runs to the end of its line, or
between its marks. -/
def skipTrivia : List Char → Except Refused (List Char)
  | [] => .ok []
  | '/' :: '/' :: rest => skipTrivia (rest.dropWhile fun character => !isLineEnd character)
  | '/' :: '*' :: rest =>
      match _ : Text.cutAt ['*', '/'] rest with
      | some (_, after) => skipTrivia after
      | none => .error (.unterminatedComment, '/' :: '*' :: rest)
  | character :: rest =>
      if Text.isBlank character then skipTrivia rest else .ok (character :: rest)
termination_by source => source.length
decreasing_by
  · have := (List.dropWhile_sublist (fun character => !isLineEnd character)
      (l := rest)).length_le
    simp only [List.length_cons]
    omega
  · rename_i cut
    have := Text.length_le_of_cutAt cut
    simp only [List.length_cons]
    omega
  · simp

theorem length_le_of_skipTrivia {source rest : List Char}
    (skipped : skipTrivia source = .ok rest) : rest.length ≤ source.length := by
  fun_induction skipTrivia source with
  | case1 => cases skipped; simp
  | case2 body induction =>
      have := (List.dropWhile_sublist (fun character => !isLineEnd character)
        (l := body)).length_le
      have := induction skipped
      simp only [List.length_cons]
      omega
  | case3 body before after cut induction =>
      have := Text.length_le_of_cutAt cut
      have := induction skipped
      simp only [List.length_cons]
      omega
  | case4 => cases skipped
  | case5 character body _ _ _ induction =>
      have := induction skipped
      simp only [List.length_cons]
      omega
  | case6 => cases skipped; simp

/-! ## Numbers -/

/-- The digits at the start of a source, and what follows them. -/
def spanDigits (source : List Char) : List Char × List Char :=
  (source.takeWhile Char.isDigit, source.dropWhile Char.isDigit)

/-- The fraction of a decimal with its point, if there is one. -/
def scanFraction : List Char → List Char × List Char
  | '.' :: rest =>
      let (digits, after) := spanDigits rest
      ('.' :: digits, after)
  | rest => ([], rest)

/-- The sign at the start of a source, if there is one, and what follows it. -/
def spanSign : List Char → List Char × List Char
  | '+' :: rest => (['+'], rest)
  | '-' :: rest => (['-'], rest)
  | rest => ([], rest)

/-- The exponent of a decimal with its mark, if there is one. A mark needs digits. -/
def scanExponent (source : List Char) : Except Refused (List Char × List Char) :=
  match source with
  | mark :: rest =>
      if mark = 'e' ∨ mark = 'E' then
        let (sign, unsigned) := spanSign rest
        let (digits, after) := spanDigits unsigned
        if digits.isEmpty then .error (.missingExponent, unsigned)
        else .ok (mark :: sign ++ digits, after)
      else
        .ok ([], source)
  | [] => .ok ([], [])

/-- A decimal: digits with at most one point, and perhaps an exponent. No digits follow
a leading zero directly. -/
def scanDecimal (source : List Char) : Except Refused (Float × List Char) :=
  let (whole, afterWhole) := spanDigits source
  if 1 < whole.length && whole.head? = some '0' then
    .error (.legacyOctal, afterWhole)
  else
    let (fraction, afterFraction) := scanFraction afterWhole
    match scanExponent afterFraction with
    | .error refused => .error refused
    | .ok (exponent, after) =>
        match Number.readDecimal? (whole ++ fraction ++ exponent) with
        | some value => .ok (value, after)
        | none => .error (.unreadableNumber, after)

def scanRadix (radix : Nat) (source : List Char) : Except Refused (Float × List Char) :=
  let digits := source.takeWhile (Number.isDigitOf radix)
  if digits.isEmpty then
    .error (.missingRadixDigits, source)
  else
    .ok (Number.foldDigits radix digits, source.dropWhile (Number.isDigitOf radix))

/-- The radix that a source begins with a mark of, and the source after the mark. -/
def radixMark? : List Char → Option (Nat × List Char)
  | '0' :: mark :: rest => (Number.radixOf? mark).map fun radix => (radix, rest)
  | _ => none

def scanNumber (source : List Char) : Except Refused (Float × List Char) :=
  let scanned :=
    match radixMark? source with
    | some (radix, rest) => scanRadix radix rest
    | none => scanDecimal source
  match scanned with
  | .error refused => .error refused
  | .ok (value, after) =>
      if after.head?.any isNameCharacter then .error (.wordAfterNumber, after)
      else .ok (value, after)

/-! ## Strings -/

/-- Exactly `count` hexadecimal digits, added to `value`. -/
def scanHexadecimal : (count value : Nat) → List Char → Except Refused (Nat × List Char)
  | 0, value, rest => .ok (value, rest)
  | _ + 1, _, [] => .error (.invalidHexadecimalEscape, [])
  | count + 1, value, character :: rest =>
      match Number.digitValue? 16 character with
      | some digit => scanHexadecimal count (value * 16 + digit) rest
      | none => .error (.invalidHexadecimalEscape, rest)

def scanCodePoint (source : List Char) : Except Refused (List Text.CodeUnit × List Char) :=
  let digits := source.takeWhile (Number.isDigitOf 16)
  let after := source.dropWhile (Number.isDigitOf 16)
  let code := Number.ofDigits 16 digits
  if digits.isEmpty || 0x100000000 ≤ code then
    .error (.invalidUnicodeEscape, after)
  else
    match after with
    | '\x7d' :: rest =>
        if code.isValidChar then .ok (Text.characterUnits (Char.ofNat code), rest)
        else .error (.invalidCodePoint, rest)
    | _ :: rest => .error (.invalidUnicodeEscape, rest)
    | [] => .error (.invalidUnicodeEscape, [])

/-- The unit that a single letter stands for after a backslash. -/
def letterEscape? : Char → Option Text.CodeUnit
  | 'n' => some 0x0A
  | 'r' => some 0x0D
  | 't' => some 0x09
  | 'b' => some 0x08
  | 'f' => some 0x0C
  | 'v' => some 0x0B
  | _ => none

/-- The units of an escape, after its backslash. A line end has none: the string goes
on in the next line. Any character without a meaning of its own stands for itself. -/
def scanEscape : List Char → Except Refused (List Text.CodeUnit × List Char)
  | [] => .error (.unterminatedString, [])
  | 'x' :: rest => (scanHexadecimal 2 0 rest).map fun (value, after) => ([value.toUInt16], after)
  | 'u' :: '\x7b' :: rest => scanCodePoint rest
  | 'u' :: rest => (scanHexadecimal 4 0 rest).map fun (value, after) => ([value.toUInt16], after)
  | '\r' :: '\n' :: rest => .ok ([], rest)
  | character :: rest =>
      match letterEscape? character with
      | some unit => .ok ([unit], rest)
      | none =>
          if character.isDigit then
            if character = '0' && !rest.head?.any Char.isDigit then .ok ([0], rest)
            else .error (.octalEscape, rest)
          else if isLineEnd character then
            .ok ([], rest)
          else
            .ok (Text.characterUnits character, rest)

/-! An escape takes at least the character after its backslash. -/

private theorem length_le_of_scanHexadecimal {count value result : Nat}
    {source rest : List Char}
    (scanned : scanHexadecimal count value source = .ok (result, rest)) :
    rest.length ≤ source.length := by
  induction count generalizing value source with
  | zero => simp_all [scanHexadecimal]
  | succ count induction =>
      cases source with
      | nil => simp [scanHexadecimal] at scanned
      | cons character source =>
          simp only [scanHexadecimal] at scanned
          split at scanned
          · have := induction scanned
            simp only [List.length_cons]
            omega
          · cases scanned

private theorem length_le_of_scanCodePoint {source rest : List Char}
    {result : List Text.CodeUnit} (scanned : scanCodePoint source = .ok (result, rest)) :
    rest.length ≤ source.length := by
  have dropped := (List.dropWhile_sublist (Number.isDigitOf 16) (l := source)).length_le
  simp only [scanCodePoint] at scanned
  split at scanned
  · cases scanned
  · split at scanned
    · rename_i after
      split at scanned
      · cases scanned
        rw [after] at dropped
        simp only [List.length_cons] at dropped
        omega
      · cases scanned
    · cases scanned
    · cases scanned

theorem length_lt_of_scanEscape {source rest : List Char} {result : List Text.CodeUnit}
    (scanned : scanEscape source = .ok (result, rest)) : rest.length < source.length := by
  have ofHexadecimal {count : Nat} {body : List Char} {result : List Text.CodeUnit}
      (mapped : (scanHexadecimal count 0 body).map
        (fun (value, after) => ([value.toUInt16], after)) = .ok (result, rest)) :
      rest.length ≤ body.length := by
    cases hexadecimal : scanHexadecimal count 0 body with
    | error refused => simp [hexadecimal, Except.map] at mapped
    | ok scanned =>
        obtain ⟨value, after⟩ := scanned
        simp only [hexadecimal, Except.map, Except.ok.injEq, Prod.mk.injEq] at mapped
        rw [← mapped.2]
        exact length_le_of_scanHexadecimal hexadecimal
  unfold scanEscape at scanned
  split at scanned
  · cases scanned
  · have := ofHexadecimal scanned
    simp only [List.length_cons]
    omega
  · have := length_le_of_scanCodePoint scanned
    simp only [List.length_cons]
    omega
  · have := ofHexadecimal scanned
    simp only [List.length_cons]
    omega
  · cases scanned
    simp only [List.length_cons]
    omega
  · split at scanned
    · cases scanned
      simp
    · split at scanned
      · split at scanned
        · cases scanned
          simp
        · cases scanned
      · split at scanned <;> cases scanned <;> simp

/-- The units of a string up to its closing quote, and what follows the quote. -/
def scanUnits (quote : Char) : List Char → Except Refused (List Text.CodeUnit × List Char)
  | [] => .error (.unterminatedString, [])
  | character :: rest =>
      if character = quote then
        .ok ([], rest)
      else if character = '\\' then
        match _ : scanEscape rest with
        | .error refused => .error refused
        | .ok (head, after) =>
            (scanUnits quote after).map fun (tail, others) => (head ++ tail, others)
      else if character = '\n' ∨ character = '\r' then
        .error (.lineBreakInString, rest)
      else
        (scanUnits quote rest).map fun (tail, others) =>
          (Text.characterUnits character ++ tail, others)
termination_by source => source.length
decreasing_by
  · rename_i escape
    have := length_lt_of_scanEscape escape
    simp only [List.length_cons]
    omega
  · simp

theorem exists_of_map_eq_ok {α β ε : Type} {transform : α → β}
    {result : Except ε α} {mapped : β} (equal : result.map transform = .ok mapped) :
    ∃ value, result = .ok value ∧ transform value = mapped := by
  cases result with
  | error _ => cases equal
  | ok value => exact ⟨value, rfl, Except.ok.inj equal⟩

theorem length_le_of_scanUnits {quote : Char} {source rest : List Char}
    {result : List Text.CodeUnit} (scanned : scanUnits quote source = .ok (result, rest)) :
    rest.length ≤ source.length := by
  fun_induction scanUnits quote source generalizing result rest with
  | case1 => cases scanned
  | case2 => cases scanned; simp
  | case3 => simp_all
  | case4 body head after escape _ induction =>
      have := length_lt_of_scanEscape escape
      obtain ⟨⟨tail, others⟩, found, equal⟩ := exists_of_map_eq_ok scanned
      cases equal
      have := induction found
      simp only [List.length_cons]
      omega
  | case5 => cases scanned
  | case6 character body _ _ _ induction =>
      obtain ⟨⟨tail, others⟩, found, equal⟩ := exists_of_map_eq_ok scanned
      cases equal
      have := induction found
      simp only [List.length_cons]
      omega

/-! ## Tokens -/

/-- The first symbol in the list that the source begins with. -/
def scanSymbol? (source : List Char) : Option (String × List Char) :=
  (symbols.find? fun spelling => spelling.toList.isPrefixOf source).map fun spelling =>
    (spelling, source.drop spelling.toList.length)

def startsNumber : List Char → Bool
  | '.' :: digit :: _ => digit.isDigit
  | character :: _ => character.isDigit
  | [] => false

def scanToken (first : Char) (rest : List Char) : Except Refused (Token × List Char) :=
  if startsNumber (first :: rest) then
    (scanNumber (first :: rest)).map fun (value, after) => (.number value, after)
  else if first = '\'' ∨ first = '"' then
    (scanUnits first rest).map fun (units, after) =>
      (.string (String.ofList (Text.ofUnits units)), after)
  else if isNameStart first then
    .ok (.word (String.ofList ((first :: rest).takeWhile isNameCharacter)),
      (first :: rest).dropWhile isNameCharacter)
  else
    match scanSymbol? (first :: rest) with
    | some (spelling, after) => .ok (.symbol spelling, after)
    | none => .error (.unexpectedCharacter first, first :: rest)

/-! A token takes at least one character. -/

private theorem length_spanDigits_le (source : List Char) :
    (spanDigits source).2.length ≤ source.length :=
  (List.dropWhile_sublist Char.isDigit).length_le

private theorem length_spanSign_le (source : List Char) :
    (spanSign source).2.length ≤ source.length := by
  unfold spanSign
  split <;> simp

private theorem length_scanFraction_le (source : List Char) :
    (scanFraction source).2.length ≤ source.length := by
  unfold scanFraction
  split
  · rename_i rest
    have := length_spanDigits_le rest
    simp only [List.length_cons]
    omega
  · simp

private theorem length_le_of_scanExponent {source exponent rest : List Char}
    (scanned : scanExponent source = .ok (exponent, rest)) :
    rest.length ≤ source.length := by
  unfold scanExponent at scanned
  split at scanned
  · rename_i mark body
    split at scanned
    · simp only at scanned
      split at scanned
      · cases scanned
      · cases scanned
        have := length_spanSign_le body
        have := length_spanDigits_le (spanSign body).2
        simp only [List.length_cons]
        omega
    · cases scanned
      simp
  · cases scanned
    simp

private theorem length_lt_of_scanDecimal {source rest : List Char} {value : Float}
    (starts : startsNumber source = true)
    (scanned : scanDecimal source = .ok (value, rest)) : rest.length < source.length := by
  have beforeExponent :
      (scanFraction (spanDigits source).2).2.length < source.length := by
    unfold startsNumber at starts
    split at starts
    · rename_i digit body
      have := length_spanDigits_le (digit :: body)
      have isPoint : (spanDigits ('.' :: digit :: body)).2 = '.' :: digit :: body := rfl
      rw [isPoint]
      simp only [scanFraction, List.length_cons] at this ⊢
      omega
    · rename_i character body _
      have := length_scanFraction_le (spanDigits (character :: body)).2
      have dropped := length_spanDigits_le body
      simp only [spanDigits, List.dropWhile_cons, starts, if_true] at this dropped ⊢
      simp only [List.length_cons]
      omega
    · cases starts
  simp only [scanDecimal] at scanned
  split at scanned
  · cases scanned
  · split at scanned
    · cases scanned
    · rename_i exponent after found
      have := length_le_of_scanExponent found
      split at scanned
      · cases scanned
        omega
      · cases scanned

private theorem length_lt_of_scanNumber {source rest : List Char} {value : Float}
    (starts : startsNumber source = true)
    (scanned : scanNumber source = .ok (value, rest)) : rest.length < source.length := by
  have untilName {result : Except Refused (Float × List Char)}
      (accepted : (match result with
        | .error refused => .error refused
        | .ok (value, after) =>
            if after.head?.any isNameCharacter then .error (.wordAfterNumber, after)
            else .ok (value, after)) = Except.ok (value, rest)) :
      result = .ok (value, rest) := by
    split at accepted
    · cases accepted
    · split at accepted <;> cases accepted
      rfl
  have accepted := untilName scanned
  split at accepted
  · rename_i radix body mark
    unfold radixMark? at mark
    split at mark
    · obtain ⟨_, _, equal⟩ := Option.map_eq_some_iff.mp mark
      cases equal
      simp only [scanRadix] at accepted
      split at accepted
      · cases accepted
      · cases accepted
        have := (List.dropWhile_sublist (Number.isDigitOf radix) (l := body)).length_le
        simp only [List.length_cons]
        omega
    · cases mark
  · exact length_lt_of_scanDecimal starts accepted

private theorem length_lt_of_scanSymbol {source rest : List Char} {spelling : String}
    (scanned : scanSymbol? source = some (spelling, rest)) :
    rest.length < source.length := by
  obtain ⟨found, search, equal⟩ := Option.map_eq_some_iff.mp scanned
  cases equal
  have nonempty : ∀ symbol ∈ symbols, 0 < symbol.toList.length := by decide +kernel
  have positive := nonempty spelling (List.mem_of_find?_eq_some search)
  have isStart := List.find?_some search
  have := (List.isPrefixOf_iff_prefix.mp isStart).length_le
  rw [List.length_drop]
  omega

theorem length_le_of_scanToken {first : Char} {source rest : List Char} {token : Token}
    (scanned : scanToken first source = .ok (token, rest)) :
    rest.length ≤ source.length := by
  unfold scanToken at scanned
  split at scanned
  · rename_i starts
    obtain ⟨⟨value, after⟩, found, equal⟩ := exists_of_map_eq_ok scanned
    cases equal
    have := length_lt_of_scanNumber starts found
    simp only [List.length_cons] at this
    omega
  · split at scanned
    · obtain ⟨⟨units, after⟩, found, equal⟩ := exists_of_map_eq_ok scanned
      cases equal
      exact length_le_of_scanUnits found
    · split at scanned
      · rename_i nameStart
        cases scanned
        have isName : isNameCharacter first = true := by
          simp only [isNameStart, isNameCharacter, Bool.or_eq_true] at nameStart ⊢
          exact .inl nameStart
        rw [List.dropWhile_cons_of_pos isName]
        exact (List.dropWhile_sublist isNameCharacter).length_le
      · split at scanned
        · rename_i found
          cases scanned
          have := length_lt_of_scanSymbol found
          simp only [List.length_cons] at this
          omega
        · cases scanned

/-! ## Whole sources -/

def byteLength : List Char → Nat
  | [] => 0
  | character :: rest => character.utf8Size + byteLength rest

/-- The tokens of what is left of a source of `total` bytes, with their places. -/
def scanFrom (total : Nat) (source : List Char) : Except Refused (List Placed) :=
  match _ : skipTrivia source with
  | .error refused => .error refused
  | .ok [] => .ok []
  | .ok (first :: rest) =>
      match _ : scanToken first rest with
      | .error refused => .error refused
      | .ok (token, after) =>
          let placed : Placed :=
            { token
              start := total - byteLength (first :: rest)
              stop := total - byteLength after }
          (scanFrom total after).map (placed :: ·)
termination_by source.length
decreasing_by
  rename_i skipped scanned
  have := length_le_of_skipTrivia skipped
  have := length_le_of_scanToken scanned
  simp only [List.length_cons] at *
  omega

/-- The tokens of a source, or the first refusal with its place. -/
def scan (source : String) : Except ParseError (List Placed) :=
  let characters := source.toList
  let total := byteLength characters
  match scanFrom total characters with
  | .ok tokens => .ok tokens
  | .error (cause, rest) => .error ⟨cause, total - byteLength rest⟩

end PageTemplates.Token
