import Mathlib.Data.List.TakeWhile
import PageTemplates.Expr.Scan

/-! # Texts of numbers

What a number takes of a source is a text of a certain form, and the same text is read as
the same number wherever nothing follows it, or a blank does.
-/

namespace PageTemplates.Token

/-! ## Ends of tokens -/

/-- Nothing, or first a character that a class does not have. -/
def Stops (accepts : Char → Bool) (rest : List Char) : Prop :=
  ∀ character ∈ rest.head?, accepts character = false

theorem Stops.cons {accepts : Char → Bool} {character : Char}
    (other : accepts character = false) (rest : List Char) :
    Stops accepts (character :: rest) := by
  intro first next
  rw [List.head?_cons, Option.mem_some_iff] at next
  exact next ▸ other

theorem stops_dropWhile (accepts : Char → Bool) (source : List Char) :
    Stops accepts (source.dropWhile accepts) := by
  intro character first
  have refused := List.head?_dropWhile_not accepts source
  rw [Option.mem_def.mp first] at refused
  simpa using refused

theorem takeWhile_append_of_stops {accepts : Char → Bool} {text rest : List Char}
    (all : ∀ character ∈ text, accepts character = true) (stops : Stops accepts rest) :
    (text ++ rest).takeWhile accepts = text := by
  rw [List.takeWhile_append_of_pos all]
  cases rest with
  | nil => rw [List.takeWhile_nil, List.append_nil]
  | cons first rest =>
      rw [List.takeWhile_cons_of_neg (by simp [stops first rfl]), List.append_nil]

theorem dropWhile_append_of_stops {accepts : Char → Bool} {text rest : List Char}
    (all : ∀ character ∈ text, accepts character = true) (stops : Stops accepts rest) :
    (text ++ rest).dropWhile accepts = rest := by
  rw [List.dropWhile_append_of_pos all]
  cases rest with
  | nil => rfl
  | cons first rest => rw [List.dropWhile_cons_of_neg (by simp [stops first rfl])]

/-- The code points of the blank characters. -/
def blankCodes : List Nat :=
  [0x9, 0xA, 0xB, 0xC, 0xD, 0x20, 0x85, 0xA0, 0x1680, 0x2000, 0x2001, 0x2002, 0x2003,
   0x2004, 0x2005, 0x2006, 0x2007, 0x2008, 0x2009, 0x200A, 0x2028, 0x2029, 0x202F, 0x205F,
   0x3000]

theorem toNat_mem_blankCodes {character : Char} (blank : Text.isBlank character = true) :
    character.toNat ∈ blankCodes := by
  simp [Text.isBlank, Text.blankRanges, Text.Ranges.contains] at blank
  simp only [blankCodes, List.mem_cons, List.not_mem_nil]
  omega

/-- A class without blanks, which are few enough to try them all. -/
theorem not_of_isBlank {accepts : Char → Bool}
    (without : ∀ code ∈ blankCodes, accepts (Char.ofNat code) = false) {character : Char}
    (blank : Text.isBlank character = true) : accepts character = false := by
  rw [← Char.ofNat_toNat character]
  exact without _ (toNat_mem_blankCodes blank)

theorem isBlank_of_accepts {accepts : Char → Bool}
    (without : ∀ code ∈ blankCodes, accepts (Char.ofNat code) = false) {character : Char}
    (accepted : accepts character = true) : Text.isBlank character = false := by
  rw [← Bool.not_eq_true]
  intro blank
  rw [not_of_isBlank without blank] at accepted
  cases accepted

/-- Nothing, or a blank first: where every token ends. -/
def Breaks (rest : List Char) : Prop :=
  ∀ character ∈ rest.head?, Text.isBlank character = true

theorem Breaks.nil : Breaks [] := nofun

theorem Breaks.space (rest : List Char) : Breaks (' ' :: rest) := by
  intro character next
  cases next
  decide

theorem Breaks.stops {accepts : Char → Bool} {rest : List Char} (breaks : Breaks rest)
    (without : ∀ code ∈ blankCodes, accepts (Char.ofNat code) = false) :
    Stops accepts rest :=
  fun character next => not_of_isBlank without (breaks character next)

/-! ## Digits, fractions and exponents -/

def Digits (text : List Char) : Prop :=
  ∀ character ∈ text, character.isDigit = true

theorem digits_spanDigits (source : List Char) : Digits (spanDigits source).1 :=
  fun _ => List.mem_takeWhile_imp

@[simp]
theorem spanDigits_append_spanDigits (source : List Char) :
    (spanDigits source).1 ++ (spanDigits source).2 = source :=
  List.takeWhile_append_dropWhile

theorem spanDigits_append {text rest : List Char} (digits : Digits text)
    (stops : Stops Char.isDigit rest) : spanDigits (text ++ rest) = (text, rest) := by
  rw [spanDigits, takeWhile_append_of_stops digits stops,
    dropWhile_append_of_stops digits stops]

/-- A point with the digits after it, or nothing. -/
inductive IsFraction : List Char → Prop
  | none : IsFraction []
  | point {digits : List Char} : Digits digits → IsFraction ('.' :: digits)

theorem isFraction_scanFraction (source : List Char) :
    IsFraction (scanFraction source).1 ∧
      (scanFraction source).1 ++ (scanFraction source).2 = source := by
  unfold scanFraction
  split
  next rest =>
    refine ⟨.point (digits_spanDigits rest), ?_⟩
    simp
  next => exact ⟨.none, rfl⟩

theorem scanFraction_append {text rest : List Char} (fraction : IsFraction text)
    (noDigit : Stops Char.isDigit rest) (noPoint : '.' ∉ rest.head?) :
    scanFraction (text ++ rest) = (text, rest) := by
  cases fraction with
  | none =>
      cases rest with
      | nil => rfl
      | cons first rest =>
          rw [List.nil_append, scanFraction]
          rintro after equal
          cases equal
          exact noPoint rfl
  | point digits =>
      rw [List.cons_append, scanFraction, spanDigits_append digits noDigit]

def IsSign (text : List Char) : Prop :=
  text = [] ∨ text = ['+'] ∨ text = ['-']

theorem isSign_spanSign (source : List Char) :
    IsSign (spanSign source).1 ∧ (spanSign source).1 ++ (spanSign source).2 = source := by
  unfold spanSign
  split <;> simp [IsSign]

theorem spanSign_append {sign digits : List Char} (isSign : IsSign sign)
    (isDigits : Digits digits) (nonempty : digits ≠ []) (rest : List Char) :
    spanSign (sign ++ (digits ++ rest)) = (sign, digits ++ rest) := by
  rcases isSign with rfl | rfl | rfl
  · rcases List.exists_cons_of_ne_nil nonempty with ⟨digit, digits, rfl⟩
    have isDigit := isDigits digit List.mem_cons_self
    rw [List.nil_append, List.cons_append, spanSign]
    · rintro after equal
      cases equal
      cases isDigit
    · rintro after equal
      cases equal
      cases isDigit
  · rfl
  · rfl

/-- A mark with digits after it and perhaps a sign between, or nothing. -/
inductive IsExponent : List Char → Prop
  | none : IsExponent []
  | mark {mark : Char} {sign digits : List Char} :
      mark = 'e' ∨ mark = 'E' → IsSign sign → Digits digits → digits ≠ [] →
      IsExponent (mark :: (sign ++ digits))

theorem isExponent_of_scanExponent {source text after : List Char}
    (scanned : scanExponent source = .ok (text, after)) :
    IsExponent text ∧ text ++ after = source := by
  unfold scanExponent at scanned
  split at scanned
  next mark rest =>
    split at scanned
    next isMark =>
      rcases isSign_spanSign rest with ⟨sign, whole⟩
      simp only at scanned
      split at scanned <;> cases scanned
      next nonempty =>
        refine ⟨.mark isMark sign (digits_spanDigits _) (by simpa using nonempty), ?_⟩
        simp [whole]
    next =>
      cases scanned
      exact ⟨.none, rfl⟩
  next =>
    cases scanned
    exact ⟨.none, rfl⟩

def isExponentMark (character : Char) : Bool :=
  character = 'e' || character = 'E'

theorem scanExponent_append {text rest : List Char} (exponent : IsExponent text)
    (noDigit : Stops Char.isDigit rest) (noMark : Stops isExponentMark rest) :
    scanExponent (text ++ rest) = .ok (text, rest) := by
  cases exponent with
  | none =>
      cases rest with
      | nil => rfl
      | cons first rest =>
          have other := noMark first rfl
          rw [isExponentMark, Bool.or_eq_false_iff, decide_eq_false_iff_not,
            decide_eq_false_iff_not] at other
          simp [scanExponent, other]
  | mark isMark sign digits nonempty =>
      simp [scanExponent, isMark, spanSign_append sign digits nonempty,
        spanDigits_append digits noDigit, nonempty]

/-! ## Decimals -/

/-- The text of a decimal with the number that it stands for. -/
inductive IsDecimal : List Char → Float → Prop
  | parts {whole fraction exponent : List Char} {value : Float} :
      Digits whole → IsFraction fraction → IsExponent exponent →
      (1 < whole.length && whole.head? = some '0') = false →
      Number.readDecimal? (whole ++ fraction ++ exponent) = some value →
      IsDecimal (whole ++ fraction ++ exponent) value

theorem isDecimal_of_scanDecimal {source after : List Char} {value : Float}
    (scanned : scanDecimal source = .ok (value, after)) :
    ∃ text, IsDecimal text value ∧ text ++ after = source := by
  simp only [scanDecimal] at scanned
  split at scanned
  next => cases scanned
  next legal =>
    rcases isFraction_scanFraction (spanDigits source).2 with ⟨fraction, fractionWhole⟩
    split at scanned
    next => cases scanned
    next exponent rest found =>
      rcases isExponent_of_scanExponent found with ⟨isExponent, exponentWhole⟩
      split at scanned
      next read =>
        cases scanned
        refine ⟨_, .parts (digits_spanDigits source) fraction isExponent
          (Bool.not_eq_true _ ▸ legal) read, ?_⟩
        rw [List.append_assoc, exponentWhole, List.append_assoc, fractionWhole,
          spanDigits_append_spanDigits]
      next => cases scanned

theorem IsExponent.stops {accepts : Char → Bool} {text rest : List Char}
    (exponent : IsExponent text) (other : accepts 'e' = false ∧ accepts 'E' = false)
    (stops : Stops accepts rest) : Stops accepts (text ++ rest) := by
  cases exponent with
  | none => exact stops
  | mark isMark =>
      refine .cons ?_ _
      rcases isMark with rfl | rfl
      · exact other.1
      · exact other.2

theorem IsFraction.stops_isDigit {text rest : List Char} (fraction : IsFraction text)
    (stops : Stops Char.isDigit rest) : Stops Char.isDigit (text ++ rest) := by
  cases fraction with
  | none => exact stops
  | point => exact .cons (by decide) _

/-- A decimal is read where no digit, point or mark of an exponent follows it. -/
theorem scanDecimal_append {text rest : List Char} {value : Float}
    (decimal : IsDecimal text value) (breaks : Breaks rest) :
    scanDecimal (text ++ rest) = .ok (value, rest) := by
  cases decimal with
  | @parts whole fraction exponent _ digits isFraction isExponent legal read =>
      have noDigit : Stops Char.isDigit rest := breaks.stops (by decide +kernel)
      have noMark : Stops isExponentMark rest := breaks.stops (by decide +kernel)
      have noPoint : Stops (· == '.') rest := breaks.stops (by decide +kernel)
      have exponentNoDigit := isExponent.stops (by decide) noDigit
      have exponentNoPoint := isExponent.stops (by decide) noPoint
      have pointAbsent : '.' ∉ (exponent ++ rest).head? := by
        intro next
        cases exponentNoPoint '.' next
      rw [scanDecimal, List.append_assoc, List.append_assoc,
        spanDigits_append digits (isFraction.stops_isDigit exponentNoDigit)]
      simp only [legal, Bool.false_eq_true, if_false,
        scanFraction_append isFraction exponentNoDigit pointAbsent,
        scanExponent_append isExponent noDigit noMark, read]

/-! ## Numbers -/

/-- The text of a number with the number: a decimal, or digits of a radix after its
mark. -/
inductive IsNumber : List Char → Float → Prop
  | decimal {text : List Char} {value : Float} : IsDecimal text value → IsNumber text value
  | radix {mark : Char} {radix : Nat} {digits : List Char} :
      Number.radixOf? mark = some radix → digits ≠ [] →
      (∀ digit ∈ digits, Number.isDigitOf radix digit = true) →
      IsNumber ('0' :: mark :: digits) (Number.foldDigits radix digits)

theorem radixMark?_eq_some {source rest : List Char} {radix : Nat}
    (marked : radixMark? source = some (radix, rest)) :
    ∃ mark, Number.radixOf? mark = some radix ∧ source = '0' :: mark :: rest := by
  unfold radixMark? at marked
  split at marked
  next mark after =>
    rcases Option.map_eq_some_iff.mp marked with ⟨found, isRadix, equal⟩
    cases equal
    exact ⟨mark, isRadix, rfl⟩
  next => cases marked

theorem isNumber_of_scanNumber {source after : List Char} {value : Float}
    (scanned : scanNumber source = .ok (value, after)) :
    ∃ text, IsNumber text value ∧ text ++ after = source := by
  simp only [scanNumber] at scanned
  split at scanned
  next => cases scanned
  next found =>
    split at scanned <;> cases scanned
    split at found
    next radix rest marked =>
      rcases radixMark?_eq_some marked with ⟨mark, isRadix, rfl⟩
      rw [scanRadix] at found
      split at found
      next => cases found
      next nonempty =>
        cases found
        refine ⟨_, .radix isRadix (by simpa using nonempty)
          (fun digit => List.mem_takeWhile_imp), ?_⟩
        rw [List.cons_append, List.cons_append, List.takeWhile_append_dropWhile]
    next =>
      rcases isDecimal_of_scanDecimal found with ⟨text, decimal, whole⟩
      exact ⟨text, .decimal decimal, whole⟩

theorem radixOf?_cases {mark : Char} {radix : Nat}
    (isRadix : Number.radixOf? mark = some radix) :
    mark ∈ ['x', 'X', 'o', 'O', 'b', 'B'] ∧ radix ∈ [16, 8, 2] := by
  unfold Number.radixOf? at isRadix
  split at isRadix <;> cases isRadix <;> decide

theorem isDecimalCharacter_of_isDigit {character : Char} (digit : character.isDigit = true) :
    Number.isDecimalCharacter character = true := by
  simp [Number.isDecimalCharacter, digit]

theorem IsDecimal.all_isDecimalCharacter {text : List Char} {value : Float}
    (decimal : IsDecimal text value) :
    ∀ character ∈ text, Number.isDecimalCharacter character = true := by
  have ofDigits {digits : List Char} (isDigits : Digits digits) :
      ∀ character ∈ digits, Number.isDecimalCharacter character = true :=
    fun character member => isDecimalCharacter_of_isDigit (isDigits character member)
  cases decimal with
  | parts digits fraction exponent =>
      intro character member
      rcases List.mem_append.mp member with member | inExponent
      · rcases List.mem_append.mp member with inWhole | inFraction
        · exact ofDigits digits character inWhole
        · cases fraction with
          | none => cases inFraction
          | point digits =>
              rcases List.mem_cons.mp inFraction with rfl | member
              · decide
              · exact ofDigits digits character member
      · cases exponent with
        | none => cases inExponent
        | mark isMark sign digits =>
            rcases List.mem_cons.mp inExponent with rfl | member
            · rcases isMark with rfl | rfl <;> decide
            rcases List.mem_append.mp member with inSign | inDigits
            · rcases sign with rfl | rfl | rfl
              · cases inSign
              · rw [List.mem_singleton.mp inSign]
                decide
              · rw [List.mem_singleton.mp inSign]
                decide
            · exact ofDigits digits character inDigits

/-- No character of a decimal and no blank is the mark of a radix. -/
theorem apart_of_radixOf? {mark : Char} {radix : Nat}
    (isRadix : Number.radixOf? mark = some radix) :
    Number.isDecimalCharacter mark = false ∧ Text.isBlank mark = false := by
  have apart : (['x', 'X', 'o', 'O', 'b', 'B'].all fun mark =>
      !Number.isDecimalCharacter mark && !Text.isBlank mark) = true := by decide +kernel
  have isMark := List.all_eq_true.mp apart mark (radixOf?_cases isRadix).1
  rwa [Bool.and_eq_true, Bool.not_eq_true', Bool.not_eq_true'] at isMark

theorem radixMark?_append_of_isDecimal {text rest : List Char} {value : Float}
    (decimal : IsDecimal text value) (breaks : Breaks rest) :
    radixMark? (text ++ rest) = none := by
  cases marked : radixMark? (text ++ rest) with
  | none => rfl
  | some found =>
      rcases radixMark?_eq_some marked with ⟨mark, isRadix, equal⟩
      rcases apart_of_radixOf? isRadix with ⟨notDecimal, notBlank⟩
      rcases text with - | ⟨first, - | ⟨second, text⟩⟩
      · rw [List.nil_append] at equal
        subst equal
        cases breaks '0' rfl
      · cases equal
        rw [breaks mark rfl] at notBlank
        cases notBlank
      · have same : second = mark := (List.cons.inj (List.cons.inj equal).2).1
        subst same
        rw [decimal.all_isDecimalCharacter second (by simp)] at notDecimal
        cases notDecimal

theorem blankCodes_not_digits : ∀ radix ∈ [16, 8, 2], ∀ code ∈ blankCodes,
    Number.isDigitOf radix (Char.ofNat code) = false := by
  decide +kernel

theorem Breaks.stops_isDigitOf {rest : List Char} (breaks : Breaks rest) {radix : Nat}
    (isRadix : radix ∈ [16, 8, 2]) : Stops (Number.isDigitOf radix) rest :=
  breaks.stops (blankCodes_not_digits radix isRadix)

theorem Breaks.not_name {rest : List Char} (breaks : Breaks rest) :
    rest.head?.any isNameCharacter = false := by
  have stops : Stops isNameCharacter rest := breaks.stops (by decide +kernel)
  cases next : rest.head? with
  | none => rfl
  | some character => exact stops character next

/-- A text of a number is read as that number, whether or not a blank follows it. -/
theorem scanNumber_append {text rest : List Char} {value : Float}
    (number : IsNumber text value) (breaks : Breaks rest) :
    scanNumber (text ++ rest) = .ok (value, rest) := by
  have noName := breaks.not_name
  cases number with
  | decimal decimal =>
      simp [scanNumber, radixMark?_append_of_isDecimal decimal breaks,
        scanDecimal_append decimal breaks, noName]
  | radix isRadix nonempty all =>
      have stops := breaks.stops_isDigitOf (radixOf?_cases isRadix).2
      simp [scanNumber, radixMark?, isRadix, scanRadix, takeWhile_append_of_stops all stops,
        dropWhile_append_of_stops all stops, nonempty, noName]

theorem startsNumber_append {text : List Char} (starts : startsNumber text = true)
    (rest : List Char) : startsNumber (text ++ rest) = true := by
  rcases text with - | ⟨first, - | ⟨second, text⟩⟩
  · cases starts
  · have isDigit : first.isDigit = true := by
      unfold startsNumber at starts
      split at starts
      next equal => cases equal
      next equal =>
        cases equal
        exact starts
      next equal => cases equal
    rw [List.cons_append, startsNumber]
    · exact isDigit
    · rintro digit after rfl -
      cases isDigit
  · by_cases point : first = '.'
    · subst point
      exact starts
    · rw [startsNumber] at starts
      · rw [List.cons_append, startsNumber]
        · exact starts
        · rintro digit after equal -
          exact point equal
      · rintro digit after equal -
        exact point equal

theorem begins_of_startsNumber {first : Char} {rest : List Char}
    (starts : startsNumber (first :: rest) = true) : first = '.' ∨ first.isDigit = true := by
  unfold startsNumber at starts
  split at starts
  next equal =>
    cases equal
    exact .inl rfl
  next equal =>
    cases equal
    exact .inr starts
  next equal => cases equal

theorem startsNumber_of_isDigit {first : Char} (digit : first.isDigit = true)
    (rest : List Char) : startsNumber (first :: rest) = true := by
  rw [startsNumber]
  · exact digit
  · rintro next after rfl -
    cases digit

/-- A decimal has a digit before its exponent, at the start or after a point there. -/
theorem IsDecimal.startsNumber {text : List Char} {value : Float}
    (decimal : IsDecimal text value) : Token.startsNumber text = true := by
  cases decimal with
  | @parts whole fraction exponent _ digits isFraction isExponent _ read =>
      rcases whole with - | ⟨first, whole⟩
      · cases isFraction with
        | none =>
            cases isExponent with
            | none => cases read
            | mark isMark => rcases isMark with rfl | rfl <;> cases read
        | @point digits isDigits =>
            rcases digits with - | ⟨digit, digits⟩
            · cases isExponent with
              | none => cases read
              | mark isMark => rcases isMark with rfl | rfl <;> cases read
            · exact isDigits digit List.mem_cons_self
      · exact startsNumber_of_isDigit (digits first List.mem_cons_self) _

theorem IsNumber.startsNumber {text : List Char} {value : Float}
    (number : IsNumber text value) : Token.startsNumber text = true := by
  cases number with
  | decimal decimal => exact decimal.startsNumber
  | radix => exact startsNumber_of_isDigit (by decide) _

end PageTemplates.Token
