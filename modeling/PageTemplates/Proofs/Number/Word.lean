import PageTemplates.Proofs.Number.IntegerPart

/-! # Arithmetic on words

Shifts and bitwise operators are exact modulo `2 ^ 32`. Every step of the conversion to a word is
exact in doubles, and each operator answers what the same operation yields on whole numbers of
any size, brought back to the range of a word.
-/

namespace PageTemplates

namespace Number

/-! ## Representatives modulo `2 ^ 32` -/

/-- The number from zero to below `2 ^ 32` that is congruent to a whole number. -/
def residue (whole : ℤ) : ℕ :=
  (whole % 2 ^ 32).toNat

/-- The number from `-2 ^ 31` to below `2 ^ 31` that is congruent to a whole number. -/
def signed (whole : ℤ) : ℤ :=
  whole.bmod (2 ^ 32)

theorem natCast_residue (whole : ℤ) : (residue whole : ℤ) = whole % 2 ^ 32 :=
  Int.toNat_of_nonneg (Int.emod_nonneg _ (by decide))

theorem residue_lt (whole : ℤ) : residue whole < 2 ^ 32 := by
  have same := natCast_residue whole
  omega

theorem residue_modEq (whole : ℤ) : (residue whole : ℤ) ≡ whole [ZMOD 2 ^ 32] := by
  rw [natCast_residue]
  exact Int.mod_modEq _ _

theorem residue_natCast (magnitude : ℕ) : residue magnitude = magnitude % 2 ^ 32 := by
  have same := natCast_residue magnitude
  omega

theorem residue_neg (magnitude : ℕ) :
    residue (-magnitude) =
      if 0 < magnitude % 2 ^ 32 then 2 ^ 32 - magnitude % 2 ^ 32 else 0 := by
  have same := natCast_residue (-magnitude)
  split <;> omega

@[simp]
theorem signed_residue (whole : ℤ) : signed (residue whole) = signed whole := by
  rw [natCast_residue]
  exact Int.emod_bmod whole (2 ^ 32)

theorem signed_bounds (whole : ℤ) : -2 ^ 31 ≤ signed whole ∧ signed whole < 2 ^ 31 :=
  ⟨Int.le_bmod (by decide), Int.bmod_lt (by decide)⟩

theorem signed_of_bounds {whole : ℤ} (bounds : -2 ^ 31 ≤ whole ∧ whole < 2 ^ 31) :
    signed whole = whole :=
  Int.bmod_eq_of_le bounds.1 bounds.2

/-! ## The conversion in doubles -/

/-- The integer part as a double. -/
def truncated (number : Float) : Float :=
  match Exact.ofFloat number with
  | .finite negative significand exponent =>
      if 0 ≤ exponent then number
      else Exact.toFloat (.finite negative (significand >>> (-exponent).toNat) 0)
  | _ => number

/-- The remainder of the integer part, corrected by the modulus where it is negative. -/
def corrected (number : Float) : Float :=
  let rest := remainder (truncated number) 4294967296
  if rest < 0 then rest + 4294967296 else rest

theorem isWhole_truncated {number : Float} (finite : number.isFinite = true) :
    ∃ negative magnitude, IsWhole (truncated number) negative magnitude ∧
      integerPart number = signedMagnitude negative magnitude := by
  rcases isFinite_iff.mp finite with ⟨negative, significand, exponent, held⟩
  have part := integerPart_of_ofFloat held
  rw [floor_mul_zpow] at part
  refine ⟨negative, _, ?_, part⟩
  simp only [truncated, held]
  split
  next nonneg =>
    exact ⟨significand, exponent, held, (Denotes.iff_of_nonneg nonneg).mpr (Nat.shiftLeft_eq _ _)⟩
  next =>
    -- A number with a fraction has a significand, and so an integer part, of 53 bits at most.
    have small := (Nat.shiftRight_le significand (-exponent).toNat).trans_lt (significand_lt held)
    rw [toFloat_of_denotes negative (.of_nat _) small]
    exact isWhole_ofMagnitude negative small

/-- The conversion has the residue of the integer part. It keeps the sign of a negative number
only where that is zero. -/
theorem corrected_eq {number : Float} (finite : number.isFinite = true) :
    ∃ negative, corrected number = ofMagnitude negative (residue (integerPart number)) ∧
      (negative = true → residue (integerPart number) = 0) := by
  rcases isWhole_truncated finite with ⟨negative, magnitude, whole, part⟩
  have modulus : (4294967296 : Float) = ofMagnitude false (2 ^ 32) :=
    ofNat_eq_ofMagnitude (by decide)
  have below : magnitude % 2 ^ 32 < 2 ^ 32 := Nat.mod_lt _ (by decide)
  have rest : remainder (truncated number) (ofMagnitude false (2 ^ 32)) =
      ofMagnitude negative (magnitude % 2 ^ 32) :=
    remainder_of_isWhole whole (isWhole_ofMagnitude false (by decide)) (by decide) (by decide)
  simp only [corrected, modulus, rest, ofMagnitude_lt_zero (below.trans (by decide)), part]
  cases negative with
  | false =>
      refine ⟨false, ?_, by simp⟩
      rw [if_neg (by simp)]
      exact congrArg _ (residue_natCast magnitude).symm
  | true =>
      simp only [signedMagnitude, if_true, residue_neg, true_and]
      split
      next positive => exact ⟨false, add_ofMagnitude positive below (by decide), by simp⟩
      next nothing =>
        have zero : magnitude % 2 ^ 32 = 0 := by omega
        exact ⟨true, by rw [zero], by simp⟩

theorem toNat_ofNatClamp {number : ℕ} (small : number < 2 ^ 32) :
    (UInt32.ofNatClamp number).toNat = number := by
  rw [UInt32.ofNatClamp_eq_ofNat number small, UInt32.toNat_ofNat', Nat.mod_eq_of_lt small]

theorem correctedRest_eq (whole : ℤ) :
    (if whole.tmod 0x100000000 < 0 then whole.tmod 0x100000000 + 0x100000000
      else whole.tmod 0x100000000) = whole % 2 ^ 32 := by
  rw [Int.tmod_eq_emod]
  split <;> split <;> omega

@[simp]
theorem toNat_word (number : Float) : (word number).toNat = residue (integerPart number) := by
  by_cases finite : number.isFinite = true
  · simp only [word, wholePart?_of_isFinite finite, correctedRest_eq]
    exact toNat_ofNatClamp (residue_lt _)
  · rcases wholePart?_of_not_isFinite finite with ⟨noPart, zero⟩
    simp only [word, noPart, zero]
    rfl

theorem toUInt32_corrected {number : Float} (finite : number.isFinite = true) :
    (corrected number).toUInt32 = word number := by
  rcases corrected_eq finite with ⟨negative, equal, zero⟩
  have small := residue_lt (integerPart number)
  rw [equal, toUInt32_ofMagnitude (small.trans (by decide)), ← UInt32.toNat_inj, toNat_word]
  split
  next isNegative => rw [zero isNegative]; rfl
  next => exact toNat_ofNatClamp small

@[simp]
theorem toInt_toInt32 (word : UInt32) : word.toInt32.toInt = signed word.toNat :=
  BitVec.toInt_eq_toNat_bmod word.toBitVec

@[simp]
theorem toInt_signedWord (number : Float) :
    (signedWord number).toInt = signed (integerPart number) := by
  simp [signedWord]

/-- The conversion of a double with a given integer part is exact. In doubles its remainder, once
corrected, is a number that a word has, so the cast to a word does not clamp it. -/
structure ConvertsExactly (number : Float) (whole : ℤ) : Prop where
  below : residue whole < 2 ^ 32
  congruent : (residue whole : ℤ) ≡ whole [ZMOD 2 ^ 32]
  isFinite_corrected : (corrected number).isFinite = true
  value_corrected : value (corrected number) = residue whole
  word_eq_cast : word number = (corrected number).toUInt32
  toNat_word : (word number).toNat = residue whole
  toInt_signedWord : (signedWord number).toInt = signed whole

theorem convertsExactly {number : Float} (finite : number.isFinite = true) :
    ConvertsExactly number (integerPart number) := by
  rcases corrected_eq finite with ⟨negative, equal, zero⟩
  have small := residue_lt (integerPart number)
  have whole : IsWhole (corrected number) negative (residue (integerPart number)) :=
    equal ▸ isWhole_ofMagnitude negative (small.trans (by decide))
  have unsigned : signedMagnitude negative (residue (integerPart number)) =
      residue (integerPart number) := by
    cases negative with
    | false => rfl
    | true => simp [signedMagnitude, zero rfl]
  exact
    { below := small
      congruent := residue_modEq _
      isFinite_corrected := whole.isFinite
      value_corrected := by rw [whole.value_eq, unsigned, Int.cast_natCast]
      word_eq_cast := (toUInt32_corrected finite).symm
      toNat_word := toNat_word number
      toInt_signedWord := toInt_signedWord number }

/-! ## Operators on words -/

theorem toNat_distance (number : Float) :
    (word number &&& 31).toNat = (integerPart number % 32).toNat := by
  have masked : residue (integerPart number) &&& 31 = residue (integerPart number) % 32 :=
    Nat.and_two_pow_sub_one_eq_mod _ 5
  have same := natCast_residue (integerPart number)
  rw [UInt32.toNat_and, toNat_word]
  change residue (integerPart number) &&& 31 = _
  omega

theorem toInt_shiftLeft (word distance : UInt32) (small : distance.toNat < 32) :
    (word <<< distance).toInt32.toInt = signed (word.toNat * 2 ^ distance.toNat) := by
  rw [toInt_toInt32, UInt32.toNat_shiftLeft, Nat.mod_eq_of_lt small, Nat.shiftLeft_eq]
  exact_mod_cast Int.emod_bmod (word.toNat * 2 ^ distance.toNat : ℕ) (2 ^ 32)

theorem toInt_shiftRight (word : Int32) (distance : UInt32) (small : distance.toNat < 32) :
    (word >>> distance.toInt32).toInt = word.toInt / 2 ^ distance.toNat := by
  have nonnegative : distance.toBitVec.msb = false := by
    rw [BitVec.msb_eq_false_iff_two_mul_lt]
    change 2 * distance.toNat < 2 ^ 32
    omega
  have amount : (distance.toBitVec.smod 32#32).toNat = distance.toNat := by
    rw [BitVec.toNat_smod, nonnegative]
    exact Nat.mod_eq_of_lt small
  change (word.toBitVec.sshiftRight (distance.toBitVec.smod 32#32).toNat).toInt = _
  rw [amount, BitVec.toInt_sshiftRight, Int.shiftRight_eq_div_pow]
  norm_cast

namespace WordOperator

/-- What an operator answers, computed on whole numbers of any size. -/
def exact (operator : WordOperator) (left right : ℤ) : ℤ :=
  match operator with
  | .shiftLeft => signed (left * 2 ^ (right % 32).toNat)
  | .shiftRight => signed left / 2 ^ (right % 32).toNat
  | .shiftRightZero => left % 2 ^ 32 / 2 ^ (right % 32).toNat
  | .both => signed (residue left &&& residue right : ℕ)
  | .either => signed (residue left ||| residue right : ℕ)
  | .exactlyOne => signed (residue left ^^^ residue right : ℕ)

theorem apply_eq (operator : WordOperator) (left right : Float) :
    operator.apply left right =
      Float.ofInt (operator.exact (integerPart left) (integerPart right)) := by
  have distance := toNat_distance right
  have small : (word right &&& 31).toNat < 32 := by omega
  refine congrArg Float.ofInt ?_
  cases operator with
  | shiftLeft =>
      dsimp only
      rw [toInt_shiftLeft _ _ small, distance, toNat_word, exact, natCast_residue]
      exact Int.emod_mul_bmod _ (2 ^ 32)
  | shiftRight =>
      dsimp only
      rw [toInt_shiftRight _ _ small, distance, toInt_signedWord, exact]
  | shiftRightZero =>
      dsimp only
      rw [UInt32.toNat_shiftRight, Nat.mod_eq_of_lt small, distance, toNat_word, exact,
        Nat.shiftRight_eq_div_pow, Int.natCast_ediv, natCast_residue]
      norm_cast
  | both | either | exactlyOne =>
      dsimp only
      rw [toInt_toInt32, exact]
      simp

theorem exact_bounds {operator : WordOperator} (isSigned : operator ≠ shiftRightZero)
    (left right : ℤ) :
    -2 ^ 31 ≤ operator.exact left right ∧ operator.exact left right < 2 ^ 31 := by
  cases operator with
  | shiftRightZero => exact absurd rfl isSigned
  | shiftRight =>
      have bounds := signed_bounds left
      have divisor : (0 : ℤ) < 2 ^ (right % 32).toNat := by positivity
      rw [exact, Int.le_ediv_iff_mul_le divisor, Int.ediv_lt_iff_lt_mul divisor]
      constructor <;> nlinarith
  | _ => exact signed_bounds _

theorem shiftRightZero_bounds (left right : ℤ) :
    0 ≤ shiftRightZero.exact left right ∧ shiftRightZero.exact left right < 2 ^ 32 := by
  have nonnegative : 0 ≤ left % 2 ^ 32 := Int.emod_nonneg _ (by decide)
  have below : left % 2 ^ 32 < 2 ^ 32 := Int.emod_lt_of_pos _ (by decide)
  rw [exact]
  exact ⟨Int.ediv_nonneg nonnegative (by positivity),
    (Int.ediv_le_self _ nonnegative).trans_lt below⟩

theorem either_zero {whole : ℤ} (bounds : -2 ^ 31 ≤ whole ∧ whole < 2 ^ 31) :
    either.apply (Float.ofInt whole) 0 = Float.ofInt whole := by
  rw [apply_eq, integerPart_zero, integerPart_ofInt (by omega), exact]
  change Float.ofInt (signed (residue whole ||| 0 : ℕ)) = _
  rw [Nat.or_zero, signed_residue, signed_of_bounds bounds]

theorem shiftRightZero_zero {whole : ℤ} (bounds : 0 ≤ whole ∧ whole < 2 ^ 32) :
    shiftRightZero.apply (Float.ofInt whole) 0 = Float.ofInt whole := by
  rw [apply_eq, integerPart_zero, integerPart_ofInt (by omega), exact]
  change Float.ofInt (whole % 2 ^ 32 / 1) = _
  rw [Int.ediv_one, Int.emod_eq_of_lt bounds.1 bounds.2]

end WordOperator

/-- Inverting a word flips each of its 32 bits. -/
theorem invertWord_eq (number : Float) :
    invertWord number =
      Float.ofInt (signed (residue (integerPart number) ^^^ (2 ^ 32 - 1) : ℕ)) := by
  rw [invertWord, signedWord, ← UInt32.toInt32_not, toInt_toInt32, ← UInt32.xor_neg_one,
    UInt32.toNat_xor, toNat_word]
  rfl

end Number

/-! ## Operators on values -/

open Number (ConvertsExactly WordOperator integerPart residue signed)

namespace Value

/-- The operand is finite as a number, and this is its integer part. -/
def HasIntegerPart (operand : Value) (whole : ℤ) : Prop :=
  operand.toNumber.isFinite = true ∧ integerPart operand.toNumber = whole

/-- The value is exactly a whole number, and an operator with zero to its right keeps it. -/
def IsExactly (value : Value) (whole : ℤ) (keeper : BinaryOperator) : Prop :=
  ∃ number : Float, value = .number number ∧ number.isFinite = true ∧
    Number.value number = whole ∧ keeper.apply value (.number 0) = .ok value

section

variable {whole : ℤ}

theorem isExactly_ofInt {keeper : BinaryOperator} (small : whole.natAbs < 2 ^ 53)
    (kept : keeper.apply (number (Float.ofInt whole)) (.number 0) =
      .ok (number (Float.ofInt whole))) :
    (number (Float.ofInt whole)).IsExactly whole keeper :=
  ⟨_, rfl, (Number.isWhole_ofInt small).isFinite, Number.value_ofInt small, kept⟩

theorem isExactly_of_signed (bounds : -2 ^ 31 ≤ whole ∧ whole < 2 ^ 31) :
    (number (Float.ofInt whole)).IsExactly whole .bitOr :=
  isExactly_ofInt (by omega) (congrArg (Except.ok ∘ number) (WordOperator.either_zero bounds))

theorem isExactly_of_unsigned (bounds : 0 ≤ whole ∧ whole < 2 ^ 32) :
    (number (Float.ofInt whole)).IsExactly whole .shiftRightZero :=
  isExactly_ofInt (by omega)
    (congrArg (Except.ok ∘ number) (WordOperator.shiftRightZero_zero bounds))

end

end Value

namespace BinaryOperator

/-- The operator on values that works on their words. -/
def onWords : WordOperator → BinaryOperator
  | .shiftLeft => shiftLeft
  | .shiftRight => shiftRight
  | .shiftRightZero => shiftRightZero
  | .both => bitAnd
  | .either => bitOr
  | .exactlyOne => bitXor

/-- The operator that keeps the answers of an operator on words. -/
def keeperOf : WordOperator → BinaryOperator
  | .shiftRightZero => shiftRightZero
  | .shiftLeft | .shiftRight | .both | .either | .exactlyOne => bitOr

/-- The operator has an answer. It is exactly a whole number, and another operator keeps it. -/
def Yields (operator : BinaryOperator) (left right : Value) (whole : ℤ)
    (keeper : BinaryOperator) : Prop :=
  ∃ answer, operator.apply left right = .ok answer ∧ answer.IsExactly whole keeper

theorem apply_onWords (operator : WordOperator) (left right : Value) :
    (onWords operator).apply left right =
      .ok (.number (operator.apply left.toNumber right.toNumber)) := by
  cases operator <;> rfl

theorem isExactly_exact (operator : WordOperator) (left right : ℤ) :
    (Value.number (Float.ofInt (operator.exact left right))).IsExactly
      (operator.exact left right) (keeperOf operator) := by
  cases operator with
  | shiftRightZero =>
      exact Value.isExactly_of_unsigned (WordOperator.shiftRightZero_bounds left right)
  | _ => exact Value.isExactly_of_signed (WordOperator.exact_bounds (by decide) left right)

section

variable {left right : Value} {first second : ℤ}

theorem yields_onWords (operator : WordOperator) (isFirst : left.HasIntegerPart first)
    (isSecond : right.HasIntegerPart second) :
    (onWords operator).Yields left right (operator.exact first second) (keeperOf operator) := by
  refine ⟨_, apply_onWords operator left right, ?_⟩
  rw [WordOperator.apply_eq, isFirst.2, isSecond.2]
  exact isExactly_exact operator first second

/-- Operands that are finite as numbers are converted to words exactly, whatever the size and
sign of their integer parts. Shifts move by the second integer part modulo 32. What the operators
answer is the exact result, of the first integer part or of the residues bit by bit, and as a
signed word, which `| 0` keeps. Only `>>>` answers an unsigned one, which `>>> 0` keeps. -/
theorem word_operators_exact (isFirst : left.HasIntegerPart first)
    (isSecond : right.HasIntegerPart second) :
    ConvertsExactly left.toNumber first ∧
      ConvertsExactly right.toNumber second ∧
      shiftLeft.Yields left right (signed (first * 2 ^ (second % 32).toNat)) bitOr ∧
      shiftRight.Yields left right (signed first / 2 ^ (second % 32).toNat) bitOr ∧
      shiftRightZero.Yields left right (first % 2 ^ 32 / 2 ^ (second % 32).toNat)
        shiftRightZero ∧
      bitAnd.Yields left right (signed (residue first &&& residue second : ℕ)) bitOr ∧
      bitOr.Yields left right (signed (residue first ||| residue second : ℕ)) bitOr ∧
      bitXor.Yields left right (signed (residue first ^^^ residue second : ℕ)) bitOr ∧
      (UnaryOperator.invert.apply left).IsExactly
        (signed (residue first ^^^ (2 ^ 32 - 1) : ℕ)) bitOr := by
  refine ⟨isFirst.2 ▸ Number.convertsExactly isFirst.1,
    isSecond.2 ▸ Number.convertsExactly isSecond.1,
    yields_onWords .shiftLeft isFirst isSecond,
    yields_onWords .shiftRight isFirst isSecond,
    yields_onWords .shiftRightZero isFirst isSecond,
    yields_onWords .both isFirst isSecond,
    yields_onWords .either isFirst isSecond,
    yields_onWords .exactlyOne isFirst isSecond, ?_⟩
  rw [UnaryOperator.apply, Number.invertWord_eq, isFirst.2]
  exact Value.isExactly_of_signed (Number.signed_bounds _)

/-- A number below `-2 ^ 65`, shifted by a negative one with a fraction. -/
theorem word_operators_exact_of_large_negative :
    (Value.number (-36893488147419111424)).HasIntegerPart (-36893488147419111424) ∧
      (Value.number (-27.5)).HasIntegerPart (-27) ∧
      Number.value (Number.corrected (-36893488147419111424)) = 4294959104 ∧
      shiftLeft.Yields (.number (-36893488147419111424)) (.number (-27.5)) (-262144) bitOr ∧
      shiftRight.Yields (.number (-36893488147419111424)) (.number (-27.5)) (-256) bitOr ∧
      shiftRightZero.Yields (.number (-36893488147419111424)) (.number (-27.5)) 134217472
        shiftRightZero ∧
      bitXor.Yields (.number (-36893488147419111424)) (.number (-27.5)) 8165 bitOr ∧
      (UnaryOperator.invert.apply (.number (-36893488147419111424))).IsExactly 8191 bitOr := by
  have isFirst : (Value.number (-36893488147419111424)).HasIntegerPart (-36893488147419111424) :=
    Number.wholePart?_eq_some_iff.mp (by decide +kernel)
  have isSecond : (Value.number (-27.5)).HasIntegerPart (-27) :=
    Number.wholePart?_eq_some_iff.mp (by decide +kernel)
  rcases word_operators_exact isFirst isSecond with
    ⟨converts, -, left, right, rightZero, -, -, exclusive, inverted⟩
  refine ⟨isFirst, isSecond, ?_, left, right, rightZero, exclusive, inverted⟩
  exact converts.value_corrected

end

end BinaryOperator

end PageTemplates
