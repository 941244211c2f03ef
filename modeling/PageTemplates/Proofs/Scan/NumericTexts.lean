import PageTemplates.Proofs.Scan.Layout
import PageTemplates.Proofs.Scan.Number
import PageTemplates.Proofs.Text.Blank

/-! # Numbers of literals and of texts

A text that is scanned as a number stands for the same number where a string is converted to
one. The reader of decimals accepts what the scanner cuts out, so no literal is refused for
being unreadable.
-/

namespace PageTemplates

/-! ## Decimals that can be read -/

namespace Token

/-- A decimal as the reader has it: perhaps a sign, digits with at most one point, at least
one digit, and perhaps an exponent. -/
inductive IsReadable : List Char → Prop
  | parts {sign whole fraction exponent : List Char} :
      IsSign sign → Digits whole → IsFraction fraction → IsExponent exponent →
      whole ≠ [] ∨ 1 < fraction.length →
      IsReadable (sign ++ (whole ++ (fraction ++ exponent)))

theorem ne_sign_of_isDigit {character : Char} (digit : character.isDigit = true) :
    character ≠ '+' ∧ character ≠ '-' := by
  constructor
  · rintro rfl
    cases digit
  · rintro rfl
    cases digit

theorem splitSign_eq {sign body : List Char} (isSign : IsSign sign)
    (unsigned : ∀ first ∈ body.head?, first ≠ '+' ∧ first ≠ '-') :
    (Number.splitSign (sign ++ body)).2 = body := by
  rcases isSign with rfl | rfl | rfl
  · rw [List.nil_append]
    unfold Number.splitSign
    split
    · exact absurd rfl (unsigned _ rfl).2
    · exact absurd rfl (unsigned _ rfl).1
    · rfl
  · rfl
  · rfl

theorem exists_of_splitSign (text : List Char) :
    ∃ sign, IsSign sign ∧ sign ++ (Number.splitSign text).2 = text := by
  unfold Number.splitSign
  split
  · exact ⟨_, .inr (.inr rfl), rfl⟩
  · exact ⟨_, .inr (.inl rfl), rfl⟩
  · exact ⟨[], .inl rfl, rfl⟩

theorem isSome_readExponent? {text : List Char} :
    (Number.readExponent? text).isSome = true ↔ IsExponent text := by
  constructor
  · intro read
    unfold Number.readExponent? at read
    split at read
    next => exact .none
    next mark rest =>
      split at read
      next isMark =>
        rcases exists_of_splitSign rest with ⟨sign, isSign, whole⟩
        dsimp only at read
        split at read
        next => cases read
        next digits =>
          simp only [Bool.or_eq_true, List.isEmpty_iff, Bool.not_eq_true', not_or,
            Bool.not_eq_false, List.all_eq_true] at digits
          rw [← whole]
          exact .mark isMark isSign digits.2 digits.1
      next => cases read
  · intro exponent
    cases exponent with
    | none => rfl
    | @mark mark sign digits isMark isSign isDigits nonempty =>
        have unsigned : ∀ first ∈ digits.head?, first ≠ '+' ∧ first ≠ '-' :=
          fun first isFirst =>
            ne_sign_of_isDigit (isDigits first (List.mem_of_mem_head? isFirst))
        have rest := splitSign_eq isSign unsigned
        have all : digits.all Char.isDigit = true := List.all_eq_true.mpr isDigits
        generalize sign ++ digits = signed at rest ⊢
        rw [Number.readExponent?, if_pos isMark]
        subst rest
        simp [nonempty, all]

/-- The reader of decimals cuts a text into parts as the scanner does. -/
theorem isSome_readDecimal?_of_cut {text whole afterWhole fraction rest : List Char}
    (cutWhole : spanDigits (Number.splitSign text).2 = (whole, afterWhole))
    (cutFraction : scanFraction afterWhole = (fraction, rest)) :
    (Number.readDecimal? text).isSome = true ↔
      (whole ≠ [] ∨ 1 < fraction.length) ∧ IsExponent rest := by
  rw [spanDigits, Prod.mk.injEq] at cutWhole
  simp only [← isSome_readExponent?, Number.readDecimal?, cutWhole.1, cutWhole.2]
  -- The character behind the whole part decides in both whether there is a fraction.
  rcases afterWhole with - | ⟨first, tail⟩
  · cases cutFraction
    cases whole <;> simp
  · by_cases point : first = '.'
    · subst point
      cases cutFraction
      simp only [List.length_cons]
      cases whole <;> cases tail.takeWhile Char.isDigit <;> simp
    · rw [scanFraction] at cutFraction
      · cases cutFraction
        cases whole <;> simp [point]
      · exact fun after equal => point (List.cons.inj equal).1

theorem isSome_readDecimal?_iff {text : List Char} :
    (Number.readDecimal? text).isSome = true ↔ IsReadable text := by
  constructor
  · intro read
    rcases exists_of_splitSign text with ⟨sign, isSign, spelled⟩
    rcases isFraction_scanFraction (spanDigits (Number.splitSign text).2).2 with
      ⟨isFraction, fractionWhole⟩
    rcases (isSome_readDecimal?_of_cut rfl rfl).mp read with ⟨digits, isExponent⟩
    rw [← spelled, ← spanDigits_append_spanDigits (Number.splitSign text).2, ← fractionWhole]
    exact .parts isSign (digits_spanDigits _) isFraction isExponent digits
  · intro readable
    cases readable with
    | @parts sign whole fraction exponent isSign isDigits isFraction isExponent digits =>
        have stops : Stops Char.isDigit [] := nofun
        have noDigit : Stops Char.isDigit exponent := by
          simpa using isExponent.stops (by decide) stops
        have noPoint : '.' ∉ exponent.head? := by
          cases isExponent with
          | none => simp
          | mark isMark => rcases isMark with rfl | rfl <;> simp
        have unsigned : ∀ first ∈ (whole ++ (fraction ++ exponent)).head?,
            first ≠ '+' ∧ first ≠ '-' := by
          intro first isFirst
          rcases whole with - | ⟨digit, whole⟩
          · rcases isFraction with - | isDigits
            · simp at digits
            · cases isFirst
              decide
          · cases isFirst
            exact ne_sign_of_isDigit (isDigits first List.mem_cons_self)
        refine (isSome_readDecimal?_of_cut ?_ (scanFraction_append isFraction noDigit
          noPoint)).mpr ⟨digits, isExponent⟩
        rw [splitSign_eq isSign unsigned]
        exact spanDigits_append isDigits (isFraction.stops_isDigit noDigit)

/-! ## Refusals -/

/-- Why a scanner refuses its source, if it does. -/
def cause? {α : Type} : Except Refused α → Option ParseCause
  | .ok _ => none
  | .error refused => some refused.1

@[simp]
theorem cause?_ok {α : Type} (scanned : α) : cause? (.ok scanned) = none :=
  rfl

@[simp]
theorem cause?_error {α : Type} (refused : Refused) :
    cause? (.error refused : Except Refused α) = some refused.1 :=
  rfl

@[simp]
theorem cause?_map {α β : Type} (transform : α → β) (result : Except Refused α) :
    cause? (result.map transform) = cause? result := by
  cases result <;> rfl

theorem cause?_scanExponent (source : List Char) :
    cause? (scanExponent source) ≠ some .unreadableNumber := by
  unfold scanExponent
  split
  · split
    · dsimp only
      split <;> simp
    · simp
  · simp

/-- Before an exponent, a decimal has a digit where its source begins with one, perhaps after
a point. -/
theorem exists_digit_of_startsNumber {source : List Char}
    (starts : startsNumber source = true) :
    (spanDigits source).1 ≠ [] ∨ 1 < (scanFraction (spanDigits source).2).1.length := by
  unfold startsNumber at starts
  split at starts
  next digit rest =>
    have isPoint : (spanDigits ('.' :: digit :: rest)).2 = '.' :: digit :: rest := rfl
    rw [isPoint]
    simp [scanFraction, spanDigits, starts]
  next => simp [spanDigits, starts]
  next => cases starts

/-- What the scanner cuts out as a decimal, the reader reads. -/
theorem cause?_scanDecimal {source : List Char} (starts : startsNumber source = true) :
    cause? (scanDecimal source) ≠ some .unreadableNumber := by
  simp only [scanDecimal]
  split
  next => simp
  next =>
    split
    next refused found =>
      have cause := cause?_scanExponent (scanFraction (spanDigits source).2).2
      rwa [found] at cause
    next exponent after found =>
      have readable := IsReadable.parts (.inl rfl) (digits_spanDigits source)
        (isFraction_scanFraction _).1 (isExponent_of_scanExponent found).1
        (exists_digit_of_startsNumber starts)
      rw [List.nil_append, ← List.append_assoc, ← isSome_readDecimal?_iff] at readable
      rcases Option.isSome_iff_exists.mp readable with ⟨value, read⟩
      rw [read]
      simp

theorem cause?_scanNumber {source : List Char} (starts : startsNumber source = true) :
    cause? (scanNumber source) ≠ some .unreadableNumber := by
  have decimal := cause?_scanDecimal starts
  simp only [scanNumber]
  split
  next found =>
    split at found
    next =>
      rw [scanRadix] at found
      split at found <;> cases found
      simp
    next => rwa [found] at decimal
  next => split <;> simp

theorem cause?_scanHexadecimal (count value : Nat) (source : List Char) :
    cause? (scanHexadecimal count value source) ≠ some .unreadableNumber := by
  induction count generalizing value source with
  | zero => simp [scanHexadecimal]
  | succ count induction =>
      cases source with
      | nil => simp [scanHexadecimal]
      | cons character rest =>
          rw [scanHexadecimal]
          split
          · exact induction _ _
          · simp

theorem cause?_scanCodePoint (source : List Char) :
    cause? (scanCodePoint source) ≠ some .unreadableNumber := by
  simp only [scanCodePoint]
  split
  · simp
  · split
    · split <;> simp
    · simp
    · simp

theorem cause?_scanEscape (source : List Char) :
    cause? (scanEscape source) ≠ some .unreadableNumber := by
  unfold scanEscape
  split
  · simp
  · simp [cause?_scanHexadecimal]
  · exact cause?_scanCodePoint _
  · simp [cause?_scanHexadecimal]
  · simp
  · split
    · simp
    · split
      · split <;> simp
      · split <;> simp

theorem cause?_scanUnits (quote : Char) (source : List Char) :
    cause? (scanUnits quote source) ≠ some .unreadableNumber := by
  fun_induction scanUnits quote source with
  | case1 => simp
  | case2 => simp
  | case3 body refused escape =>
      have cause := cause?_scanEscape body
      rwa [escape] at cause
  | case4 body head after escape _ induction => simpa using induction
  | case5 => simp
  | case6 character body _ _ _ induction => simpa using induction

theorem cause?_scanToken (first : Char) (rest : List Char) :
    cause? (scanToken first rest) ≠ some .unreadableNumber := by
  unfold scanToken
  split
  next starts => simpa using cause?_scanNumber starts
  next =>
    split
    · simpa using cause?_scanUnits first rest
    · split
      · simp
      · split <;> simp

theorem cause?_skipTrivia (source : List Char) :
    cause? (skipTrivia source) ≠ some .unreadableNumber := by
  fun_induction skipTrivia source with
  | case1 => simp
  | case2 _ induction => exact induction
  | case3 _ _ _ _ induction => exact induction
  | case4 => simp
  | case5 _ _ _ _ _ induction => exact induction
  | case6 => simp

theorem cause?_scanFrom (total : Nat) (source : List Char) :
    cause? (scanFrom total source) ≠ some .unreadableNumber := by
  fun_induction scanFrom total source with
  | case1 source refused skipped =>
      have cause := cause?_skipTrivia source
      rwa [skipped] at cause
  | case2 => simp
  | case3 source first rest skipped refused found =>
      have cause := cause?_scanToken first rest
      rwa [found] at cause
  | case4 source first rest skipped token after found placed induction =>
      simpa using induction

/-- No source is refused for a decimal that cannot be read. -/
theorem cause_ne_unreadableNumber_of_scan {source : String} {error : ParseError}
    (scanned : scan source = .error error) : error.cause ≠ .unreadableNumber := by
  simp only [scan] at scanned
  split at scanned <;> cases scanned
  next found =>
    have cause := cause?_scanFrom (byteLength source.toList) source.toList
    rw [found] at cause
    exact fun equal => cause (congrArg some equal)

/-! ## Texts of literals -/

theorem IsNumber.visible {text : List Char} {value : Float} (number : IsNumber text value) :
    ∀ character ∈ text, Text.isBlank character = false := by
  cases number with
  | decimal decimal =>
      exact fun character member =>
        isBlank_of_accepts (by decide +kernel) (decimal.all_isDecimalCharacter character member)
  | @radix mark radix digits isRadix nonempty all =>
      have apart := blankCodes_not_digits radix (radixOf?_cases isRadix).2
      intro character member
      rcases List.mem_cons.mp member with rfl | member
      · decide
      rcases List.mem_cons.mp member with rfl | member
      · exact (apart_of_radixOf? isRadix).2
      · exact isBlank_of_accepts apart (all character member)

/-- A text that is scanned alone as a number is a text of that number. -/
theorem isNumber_of_scan {text : String} {value : Float}
    (scanned : scan text = .ok [⟨.number value, 0, byteLength text.toList⟩]) :
    IsNumber text.toList value := by
  rcases scanToken_of_scan scanned with ⟨first, more, same, read⟩
  rw [same]
  unfold scanToken at read
  split at read
  next =>
    rcases exists_of_map_eq_ok read with ⟨⟨found, after⟩, number, equal⟩
    cases equal
    rcases isNumber_of_scanNumber number with ⟨whole, isNumber, equal⟩
    rwa [← equal, List.append_nil]
  next =>
    split at read
    next =>
      rcases exists_of_map_eq_ok read with ⟨_, _, equal⟩
      cases equal
    next =>
      split at read
      next => cases read
      next => split at read <;> cases read

theorem scan_eq_number_iff {text : String} {value : Float} :
    scan text = .ok [⟨.number value, 0, text.utf8ByteSize⟩] ↔ IsNumber text.toList value := by
  have size : byteLength text.toList = text.utf8ByteSize := by
    rw [byteLength_eq_utf8ByteSize, String.ofList_toList]
  rw [← size]
  exact ⟨isNumber_of_scan, fun number => (isReadAs_of_isNumber number).scan⟩

theorem IsDecimal.radixMark?_eq_none {text : List Char} {value : Float}
    (decimal : IsDecimal text value) : radixMark? text = none := by
  have unmarked := radixMark?_append_of_isDecimal decimal .nil
  rwa [List.append_nil] at unmarked

theorem IsDecimal.readDecimal?_eq {text : List Char} {value : Float}
    (decimal : IsDecimal text value) : Number.readDecimal? text = some value := by
  cases decimal with
  | parts _ _ _ _ read => exact read

end Token

namespace Number

open Token (IsDecimal IsNumber)

theorem ofText_of_isNumber {text : String} {value : Float}
    (number : IsNumber (Text.trim text.toList) value) : ofText text = value := by
  rw [ofText]
  generalize Text.trim text.toList = body at number
  cases number with
  | radix isRadix nonempty all => simp [isRadix, nonempty, List.all_eq_true.mpr all]
  | decimal decimal =>
      -- It begins with a digit or a point, so it is neither empty nor an infinity.
      have starts := decimal.startsNumber
      have unmarked := decimal.radixMark?_eq_none
      have decimalOnly : body.all isDecimalCharacter = true :=
        List.all_eq_true.mpr decimal.all_isDecimalCharacter
      simp only [decimalOnly, decimal.readDecimal?_eq, if_true, Option.getD_some]
      split
      next => cases starts
      next mark digits =>
        rw [Token.radixMark?, Option.map_eq_none_iff] at unmarked
        rw [unmarked]
      next =>
        split
        next infinite => rcases infinite with rfl | rfl <;> cases starts
        next =>
          split
          next infinite =>
            subst infinite
            cases starts
          next => rfl

/-- The texts that are scanned alone as a number, with nothing around it, are the decimals
without a superfluous zero at the front and the digits of a radix after its mark. Each is the
same number where a string is converted to one, blanks around it aside. No source is refused
for a decimal that cannot be read: exactly the decimals of the usual form can. -/
theorem literals_read_as_texts :
    (∀ (text : String) (value : Float),
      Token.scan text = .ok [⟨.number value, 0, text.utf8ByteSize⟩] ↔
        Token.IsNumber text.toList value) ∧
    (∀ {text : String} {value : Float},
      Token.scan text = .ok [⟨.number value, 0, text.utf8ByteSize⟩] →
      ∀ {before after : String}, Text.Blanks before.toList → Text.Blanks after.toList →
      ofText (before ++ text ++ after) = value) ∧
    (∀ (source : String) (position : Nat),
      Token.scan source ≠ .error ⟨.unreadableNumber, position⟩) ∧
    ∀ text : List Char, (readDecimal? text).isSome = true ↔ Token.IsReadable text := by
  refine ⟨fun _ _ => Token.scan_eq_number_iff, ?_, ?_,
    fun _ => Token.isSome_readDecimal?_iff⟩
  · intro text value scanned before after blankBefore blankAfter
    have number := Token.scan_eq_number_iff.mp scanned
    refine ofText_of_isNumber ?_
    rwa [String.toList_append, String.toList_append, Text.trim_append_blanks _ blankAfter,
      Text.trim_blanks_append blankBefore, Text.trim_eq_self number.visible]
  · exact fun source position scanned =>
      Token.cause_ne_unreadableNumber_of_scan scanned rfl

theorem literals_read_as_texts_between_blanks :
    Token.scan "0X1f" = .ok [⟨.number 31, 0, "0X1f".utf8ByteSize⟩] ∧
      Text.Blanks "\u00A0".toList ∧ Text.Blanks "\n ".toList ∧
      ofText ("\u00A0" ++ "0X1f" ++ "\n ") = 31 := by
  have scanned : Token.scan "0X1f" = .ok [⟨.number 31, 0, "0X1f".utf8ByteSize⟩] := by
    decide +kernel
  have before : Text.Blanks "\u00A0".toList := List.all_eq_true.mp (by decide)
  have after : Text.Blanks "\n ".toList := List.all_eq_true.mp (by decide)
  exact ⟨scanned, before, after, literals_read_as_texts.2.1 scanned before after⟩

end Number

end PageTemplates
