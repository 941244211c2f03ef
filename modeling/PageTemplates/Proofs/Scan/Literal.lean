import PageTemplates.Proofs.Except
import PageTemplates.Proofs.Scan.Number
import PageTemplates.Proofs.Text.Units

/-! # Forms of strings

A string between quotes may spell each of its characters in one of several forms, and break
its line where a backslash precedes the line end. In whatever forms the characters are
spelled, the units that are read are those of the string.
-/

namespace PageTemplates.Token

/-! ## Forms of a character -/

def IsQuote (quote : Char) : Prop :=
  quote = '\'' ∨ quote = '"'

/-- Digits of either case, and the number that they stand for. -/
def IsHexadecimal (digits : List Char) (value : Nat) : Prop :=
  (∀ digit ∈ digits, Number.isDigitOf 16 digit = true) ∧ Number.ofDigits 16 digits = value

instance (digits : List Char) (value : Nat) : Decidable (IsHexadecimal digits value) :=
  decidable_of_iff (digits.all (Number.isDigitOf 16) ∧ Number.ofDigits 16 digits = value)
    (by rw [IsHexadecimal, List.all_eq_true])

/-- The control characters that have a letter, after it. -/
def controlLetters : List (Char × Char) :=
  [('b', '\x08'), ('f', '\x0c'), ('n', '\n'), ('r', '\r'), ('t', '\t'), ('v', '\x0b')]

/-- The letters that do not stand for themselves after a backslash. -/
def escapeLetters : List Char :=
  ['b', 'f', 'n', 'r', 't', 'u', 'v', 'x']

/-- The texts that stand for a character in a string between quotes. -/
inductive IsForm (quote : Char) : Char → List Char → Prop
  | itself {character : Char} : character ∉ [quote, '\\', '\n', '\r'] →
      IsForm quote character [character]
  | escaped {character : Char} : character.isDigit = false → isLineEnd character = false →
      character ∉ escapeLetters → IsForm quote character ['\\', character]
  | letter {letter character : Char} : (letter, character) ∈ controlLetters →
      IsForm quote character ['\\', letter]
  | byte {character : Char} {digits : List Char} : character.toNat < 0x100 →
      digits.length = 2 → IsHexadecimal digits character.toNat →
      IsForm quote character ('\\' :: 'x' :: digits)
  | unit {character : Char} {digits : List Char} : character.toNat < 0x10000 →
      digits.length = 4 → IsHexadecimal digits character.toNat →
      IsForm quote character ('\\' :: 'u' :: digits)
  /-- The two surrogates of a character, each as a unit. -/
  | surrogates {character : Char} {leading trailing : List Char} :
      0x10000 ≤ character.toNat → leading.length = 4 → trailing.length = 4 →
      IsHexadecimal leading (0xD800 + (character.toNat - 0x10000) / 0x400) →
      IsHexadecimal trailing (0xDC00 + (character.toNat - 0x10000) % 0x400) →
      IsForm quote character ('\\' :: 'u' :: (leading ++ '\\' :: 'u' :: trailing))
  /-- A code point between braces, with any number of leading zeros. -/
  | codePoint {character : Char} {digits : List Char} : digits ≠ [] →
      IsHexadecimal digits character.toNat →
      IsForm quote character ('\\' :: 'u' :: '\x7b' :: (digits ++ ['\x7d']))

/-- What ends a line of a string that goes on in the next one. -/
def lineEndings : List (List Char) :=
  [['\n'], ['\r'], ['\r', '\n'], ['\u2028'], ['\u2029']]

/-- What may stand between two quotes for a text: a form of every character, and broken
lines between them. -/
inductive Encodes (quote : Char) : (text body : List Char) → Prop
  | nil : Encodes quote [] []
  | character {character : Char} {form text body : List Char} : IsForm quote character form →
      Encodes quote text body → Encodes quote (character :: text) (form ++ body)
  | continuation {ending text body : List Char} : ending ∈ lineEndings →
      Encodes quote text body → Encodes quote text ('\\' :: (ending ++ body))

/-! ## Hexadecimal digits -/

theorem scanHexadecimal_append {digits : List Char}
    (all : ∀ digit ∈ digits, Number.isDigitOf 16 digit = true) (value : Nat)
    (rest : List Char) :
    scanHexadecimal digits.length value (digits ++ rest) =
      .ok (digits.foldl
        (fun total digit => total * 16 + (Number.digitValue? 16 digit).getD 0) value, rest) := by
  induction digits generalizing value with
  | nil => rfl
  | cons digit digits induction =>
      rw [List.forall_mem_cons] at all
      rcases Option.isSome_iff_exists.mp all.1 with ⟨amount, isAmount⟩
      rw [List.length_cons, List.cons_append, scanHexadecimal, isAmount]
      simp only [List.foldl_cons, isAmount, Option.getD_some, induction all.2]

theorem IsHexadecimal.scanHexadecimal {digits : List Char} {value count : Nat}
    (hexadecimal : IsHexadecimal digits value) (length : digits.length = count)
    (rest : List Char) :
    Token.scanHexadecimal count 0 (digits ++ rest) = .ok (value, rest) := by
  rw [← length, scanHexadecimal_append hexadecimal.1, ← hexadecimal.2]
  rfl

/-- No brace is a digit, so four digits are not read as the start of a code point. -/
theorem IsHexadecimal.scanEscape_unit {digits : List Char} {value : Nat}
    (hexadecimal : IsHexadecimal digits value) (length : digits.length = 4)
    (rest : List Char) :
    scanEscape ('u' :: (digits ++ rest)) = .ok ([value.toUInt16], rest) := by
  rw [scanEscape, hexadecimal.scanHexadecimal length]
  · rfl
  · rintro after equal
    cases digits with
    | nil => cases length
    | cons digit digits =>
        cases equal
        have isDigit := hexadecimal.1 '\x7b' List.mem_cons_self
        exact absurd isDigit (by decide)

theorem IsHexadecimal.scanCodePoint {digits : List Char} {character : Char}
    (hexadecimal : IsHexadecimal digits character.toNat) (nonempty : digits ≠ [])
    (rest : List Char) :
    Token.scanCodePoint (digits ++ '\x7d' :: rest) =
      .ok (Text.characterUnits character, rest) := by
  have stops : Stops (Number.isDigitOf 16) ('\x7d' :: rest) := .cons (by decide) rest
  have valid : character.toNat.isValidChar := character.valid
  have small : ¬ 0x100000000 ≤ character.toNat := by
    have := Text.toNat_character character
    omega
  simp [Token.scanCodePoint, takeWhile_append_of_stops hexadecimal.1 stops,
    dropWhile_append_of_stops hexadecimal.1 stops, hexadecimal.2, nonempty, small, valid]

/-! ## Reading the forms -/

theorem scanUnits_cons_escape {quote : Char} (other : quote ≠ '\\')
    {body after : List Char} {head : List Text.CodeUnit}
    (escape : scanEscape body = .ok (head, after)) :
    scanUnits quote ('\\' :: body) =
      (scanUnits quote after).map fun (tail, others) => (head ++ tail, others) := by
  rw [scanUnits, if_neg other.symm, if_pos rfl]
  split
  next refused =>
    rw [escape] at refused
    cases refused
  next found =>
    rw [escape] at found
    cases found
    rfl

theorem IsQuote.ne_backslash {quote : Char} (isQuote : IsQuote quote) : quote ≠ '\\' := by
  rcases isQuote with rfl | rfl <;> decide

theorem scanEscape_letter {letter character : Char}
    (control : (letter, character) ∈ controlLetters) (rest : List Char) :
    scanEscape (letter :: rest) = .ok (Text.characterUnits character, rest) := by
  simp only [controlLetters, List.mem_cons, List.not_mem_nil, or_false, Prod.mk.injEq] at control
  rcases control with
    ⟨rfl, rfl⟩ | ⟨rfl, rfl⟩ | ⟨rfl, rfl⟩ | ⟨rfl, rfl⟩ | ⟨rfl, rfl⟩ | ⟨rfl, rfl⟩ <;> rfl

theorem scanEscape_of_plain {character : Char} (noDigit : character.isDigit = false)
    (noEnd : isLineEnd character = false) (noLetter : character ∉ escapeLetters)
    (rest : List Char) :
    scanEscape (character :: rest) = .ok (Text.characterUnits character, rest) := by
  have none : letterEscape? character = none := by
    unfold letterEscape?
    split <;> first | rfl | exact absurd (by decide) noLetter
  rw [scanEscape]
  · simp [none, noDigit, noEnd]
  · rintro rfl
    exact absurd (by decide) noLetter
  · rintro _ rfl
    exact absurd (by decide) noLetter
  · rintro rfl
    exact absurd (by decide) noLetter
  · rintro _ rfl
    cases noEnd

section

variable {quote : Char} {after tail : List Char} {units : List Text.CodeUnit}

/-- A form is read as the units of its character, whatever is read after it. -/
theorem IsForm.scanUnits (isQuote : IsQuote quote) {character : Char} {text : List Char}
    (form : IsForm quote character text)
    (scanned : Token.scanUnits quote after = .ok (units, tail)) :
    Token.scanUnits quote (text ++ after) =
      .ok (Text.characterUnits character ++ units, tail) := by
  have escape {body rest : List Char} {head others : List Text.CodeUnit}
      (found : scanEscape body = .ok (head, rest))
      (follows : Token.scanUnits quote rest = .ok (others, tail)) :
      Token.scanUnits quote ('\\' :: body) = .ok (head ++ others, tail) := by
    rw [scanUnits_cons_escape isQuote.ne_backslash found, follows]
    rfl
  cases form with
  | itself plain =>
      simp only [List.mem_cons, List.not_mem_nil, or_false, not_or] at plain
      rw [List.singleton_append, Token.scanUnits]
      simp [plain, scanned]
  | escaped noDigit noEnd noLetter =>
      exact escape (scanEscape_of_plain noDigit noEnd noLetter after) scanned
  | letter control => exact escape (scanEscape_letter control after) scanned
  | @byte _ digits small length hexadecimal =>
      have found : scanEscape ('x' :: (digits ++ after)) =
          .ok ([character.toNat.toUInt16], after) := by
        rw [scanEscape, hexadecimal.scanHexadecimal length]
        rfl
      rw [Text.characterUnits, if_pos (by omega)]
      exact escape found scanned
  | unit small length hexadecimal =>
      rw [Text.characterUnits, if_pos small]
      exact escape (hexadecimal.scanEscape_unit length after) scanned
  | @surrogates _ leading trailing large leadingLength trailingLength isLeading isTrailing =>
      have second := escape (isTrailing.scanEscape_unit trailingLength after) scanned
      have first := escape (isLeading.scanEscape_unit leadingLength
        ('\\' :: 'u' :: (trailing ++ after))) second
      rw [Text.characterUnits, if_neg (by omega)]
      simpa using first
  | @codePoint _ digits nonempty hexadecimal =>
      have found : scanEscape ('u' :: '\x7b' :: (digits ++ '\x7d' :: after)) =
          .ok (Text.characterUnits character, after) := by
        rw [scanEscape]
        exact hexadecimal.scanCodePoint nonempty after
      simpa using escape found scanned

theorem scanEscape_lineEnding {ending : List Char} (isEnding : ending ∈ lineEndings)
    (noFeed : after.head? ≠ some '\n') : scanEscape (ending ++ after) = .ok ([], after) := by
  simp only [lineEndings, List.mem_cons, List.not_mem_nil, or_false] at isEnding
  rcases isEnding with rfl | rfl | rfl | rfl | rfl
  · rfl
  · cases after with
    | nil => rfl
    | cons next after =>
        rw [List.singleton_append, scanEscape]
        · rfl
        · nofun
        · nofun
        · nofun
        · rintro rest - equal
          cases equal
          exact noFeed rfl
  · rfl
  · rfl
  · rfl

/-- No form begins with a line feed, so a carriage return before it ends a line alone. -/
theorem Encodes.head_ne (isQuote : IsQuote quote) {text body : List Char}
    (encodes : Encodes quote text body) (rest : List Char) :
    (body ++ quote :: rest).head? ≠ some '\n' := by
  cases encodes with
  | nil => rcases isQuote with rfl | rfl <;> simp
  | continuation => simp
  | character form =>
      cases form with
      | itself plain =>
          rintro next
          cases next
          exact absurd (by simp) plain
      | _ => simp

theorem Encodes.scanUnits (isQuote : IsQuote quote) {text body : List Char}
    (encodes : Encodes quote text body) (rest : List Char) :
    Token.scanUnits quote (body ++ quote :: rest) =
      .ok (text.flatMap Text.characterUnits, rest) := by
  induction encodes with
  | nil =>
      rw [List.nil_append, Token.scanUnits, if_pos rfl]
      rfl
  | character form encodes induction =>
      rw [List.append_assoc, List.flatMap_cons]
      exact form.scanUnits isQuote induction
  | continuation isEnding encodes induction =>
      have escape := scanEscape_lineEnding isEnding (encodes.head_ne isQuote rest)
      rw [List.cons_append, List.append_assoc,
        scanUnits_cons_escape isQuote.ne_backslash escape, induction]
      rfl

end

/-! ## What a string takes

A string is read up to its closing quote, whatever follows the quote. Inside, an escape may
look at the character after it: a digit after a zero, or a line feed after a carriage
return.
-/

theorem exists_of_scanHexadecimal {count value result : Nat} {source after : List Char}
    (scanned : scanHexadecimal count value source = .ok (result, after)) :
    ∃ digits, source = digits ++ after ∧ (∀ digit ∈ digits, Number.isDigitOf 16 digit = true) ∧
      digits.length = count ∧
      ∀ other, scanHexadecimal count value (digits ++ other) = .ok (result, other) := by
  induction count generalizing value source with
  | zero =>
      cases scanned
      exact ⟨[], rfl, nofun, rfl, fun _ => rfl⟩
  | succ count induction =>
      cases source with
      | nil => cases scanned
      | cons character source =>
          rw [scanHexadecimal] at scanned
          split at scanned
          next digit isDigit =>
            rcases induction scanned with ⟨digits, rfl, all, length, again⟩
            refine ⟨character :: digits, rfl, List.forall_mem_cons.mpr ⟨?_, all⟩,
              by rw [List.length_cons, length], fun other => ?_⟩
            · rw [Number.isDigitOf, isDigit]
              rfl
            · rw [List.cons_append, scanHexadecimal, isDigit]
              exact again other
          next => cases scanned

theorem exists_of_scanCodePoint {source after : List Char} {units : List Text.CodeUnit}
    (scanned : scanCodePoint source = .ok (units, after)) :
    ∃ taken, source = taken ++ after ∧
      ∀ other, scanCodePoint (taken ++ other) = .ok (units, other) := by
  have whole : source.takeWhile (Number.isDigitOf 16) ++
      source.dropWhile (Number.isDigitOf 16) = source := List.takeWhile_append_dropWhile
  have all : ∀ digit ∈ source.takeWhile (Number.isDigitOf 16),
      Number.isDigitOf 16 digit = true := fun _ => List.mem_takeWhile_imp
  simp only [scanCodePoint] at scanned
  split at scanned
  next => cases scanned
  next small =>
    split at scanned
    next rest closes =>
      split at scanned <;> cases scanned
      next valid =>
        rw [closes] at whole
        refine ⟨source.takeWhile (Number.isDigitOf 16) ++ ['\x7d'], by simp [whole],
          fun other => ?_⟩
        have stops : Stops (Number.isDigitOf 16) ('\x7d' :: other) := .cons (by decide) other
        rw [List.append_assoc, List.singleton_append]
        simp only [scanCodePoint, takeWhile_append_of_stops all stops,
          dropWhile_append_of_stops all stops, small, valid, if_true,
          Bool.false_eq_true, if_false]
    next => cases scanned
    next => cases scanned

/-- An escape is read alike before whatever begins with the same character. -/
theorem exists_of_scanEscape {source after : List Char} {units : List Text.CodeUnit}
    (scanned : scanEscape source = .ok (units, after)) :
    ∃ taken, source = taken ++ after ∧ ∀ other, other.head? = after.head? →
      scanEscape (taken ++ other) = .ok (units, other) := by
  unfold scanEscape at scanned
  split at scanned
  next => cases scanned
  next rest =>
    rcases exists_of_map_eq_ok scanned with ⟨⟨value, left⟩, found, equal⟩
    cases equal
    rcases exists_of_scanHexadecimal found with ⟨digits, rfl, -, -, again⟩
    refine ⟨'x' :: digits, rfl, fun other _ => ?_⟩
    rw [List.cons_append, scanEscape, again]
    rfl
  next rest =>
    rcases exists_of_scanCodePoint scanned with ⟨taken, rfl, again⟩
    refine ⟨'u' :: '\x7b' :: taken, rfl, fun other _ => ?_⟩
    rw [List.cons_append, List.cons_append, scanEscape]
    exact again other
  next rest _ =>
    rcases exists_of_map_eq_ok scanned with ⟨⟨value, left⟩, found, equal⟩
    cases equal
    rcases exists_of_scanHexadecimal found with ⟨digits, rfl, all, length, again⟩
    refine ⟨'u' :: digits, rfl, fun other _ => ?_⟩
    rw [List.cons_append, scanEscape, again]
    · rfl
    · rintro tail equal
      cases digits with
      | nil => cases length
      | cons digit digits =>
          cases equal
          exact absurd (all '\x7b' List.mem_cons_self) (by decide)
  next rest =>
    cases scanned
    exact ⟨['\r', '\n'], rfl, fun other _ => rfl⟩
  next character rest noByte _ noUnit noBreak =>
    -- Any other character is taken alone, whatever it stands for.
    have left : rest = after := by
      split at scanned
      · cases scanned
        rfl
      · split_ifs at scanned <;> cases scanned <;> rfl
    subst left
    refine ⟨[character], rfl, fun other same => ?_⟩
    rw [List.singleton_append, scanEscape, same]
    · cases letter : letterEscape? character with
      | some unit =>
          rw [letter] at scanned
          cases scanned
          rfl
      | none =>
          rw [letter] at scanned
          dsimp only at scanned ⊢
          split_ifs at scanned ⊢ <;> cases scanned <;> rfl
    · exact noByte
    · exact fun _ isUnit _ => noUnit isUnit
    · exact noUnit
    · rintro tail isReturn rfl
      cases rest with
      | nil => cases same
      | cons next rest =>
          cases same
          exact noBreak rest isReturn rfl

theorem exists_of_scanUnits {quote : Char} {source after : List Char}
    {units : List Text.CodeUnit} (scanned : scanUnits quote source = .ok (units, after)) :
    ∃ body, source = body ++ quote :: after ∧
      ∀ other, scanUnits quote (body ++ quote :: other) = .ok (units, other) := by
  fun_induction scanUnits quote source generalizing units after with
  | case1 => cases scanned
  | case2 rest =>
      cases scanned
      refine ⟨[], rfl, fun other => ?_⟩
      rw [List.nil_append, scanUnits, if_pos rfl]
  | case3 rest refused escape =>
      cases scanned
  | case4 rest head left escape notQuote induction =>
      rcases exists_of_map_eq_ok scanned with ⟨⟨tail, others⟩, found, equal⟩
      cases equal
      rcases induction found with ⟨body, rfl, again⟩
      rcases exists_of_scanEscape escape with ⟨taken, rfl, escapes⟩
      refine ⟨'\\' :: (taken ++ body), by simp, fun other => ?_⟩
      have same : (body ++ quote :: other).head? = (body ++ quote :: after).head? := by
        cases body <;> rfl
      have found := escapes _ same
      rw [List.cons_append, List.append_assoc,
        scanUnits_cons_escape (Ne.symm notQuote) found, again]
      rfl
  | case5 => cases scanned
  | case6 character rest notQuote notEscape noEnd induction =>
      rcases exists_of_map_eq_ok scanned with ⟨⟨tail, others⟩, found, equal⟩
      cases equal
      rcases induction found with ⟨body, rfl, again⟩
      refine ⟨character :: body, rfl, fun other => ?_⟩
      rw [List.cons_append, scanUnits, if_neg notQuote, if_neg notEscape, if_neg noEnd, again]
      rfl

end PageTemplates.Token
