import PageTemplates.Proofs.Number.Whole

/-! # Integer parts of doubles

A finite double is a rational number. Its integer part, that number without its fraction, may be
of any size, and remainders of whole numbers are exact at any size too.
-/

namespace PageTemplates.Number

open Float.Model (Format UnpackedFloat)
open Float.Model.UnpackedFloat

/-! ## The number that a double is -/

/-- The rational number that is meant, zero where none is. -/
def Exact.value : Exact → ℚ
  | .finite negative significand exponent =>
      (if negative then -1 else 1) * (significand * 2 ^ exponent)
  | .notANumber | .infinite _ => 0

def value (number : Float) : ℚ :=
  (Exact.ofFloat number).value

/-- The number without its fraction, rounded toward zero. -/
def integerPart (number : Float) : ℤ :=
  if 0 ≤ value number then ⌊value number⌋ else ⌈value number⌉

def signedMagnitude (negative : Bool) (magnitude : ℕ) : ℤ :=
  if negative then -magnitude else magnitude

theorem signedMagnitude_natAbs (whole : ℤ) :
    signedMagnitude (decide (whole < 0)) whole.natAbs = whole := by
  rw [signedMagnitude]
  by_cases negative : whole < 0
  · rw [if_pos (decide_eq_true negative)]
    omega
  · rw [if_neg (by simpa using negative)]
    omega

theorem isFinite_iff {number : Float} :
    number.isFinite = true ↔
      ∃ negative significand exponent,
        Exact.ofFloat number = .finite negative significand exponent := by
  unfold Exact.ofFloat
  change number.toModel.unpack.isFinite = true ↔ _
  cases number.toModel.unpack <;> simp [UnpackedFloat.isFinite]

/-! ## The integer part -/

/-- The whole part is found by moving the bits of the significand. -/
theorem floor_mul_zpow (significand : ℕ) (exponent : ℤ) :
    ⌊(significand : ℚ) * 2 ^ exponent⌋ =
      ((if 0 ≤ exponent then significand <<< exponent.toNat
        else significand >>> (-exponent).toNat : ℕ) : ℤ) := by
  split
  next nonneg =>
    have power : (2 : ℚ) ^ exponent = ((2 ^ exponent.toNat : ℕ) : ℚ) := by
      rw [Nat.cast_pow, Nat.cast_ofNat, ← zpow_natCast, Int.toNat_of_nonneg nonneg]
    rw [power, ← Nat.cast_mul, Int.floor_natCast, Nat.shiftLeft_eq]
  next =>
    have power : (2 : ℚ) ^ exponent = ((2 ^ (-exponent).toNat : ℕ) : ℚ)⁻¹ := by
      rw [Nat.cast_pow, Nat.cast_ofNat, ← zpow_natCast, Int.toNat_of_nonneg (by omega), zpow_neg,
        inv_inv]
    rw [power, ← div_eq_mul_inv, Rat.floor_natCast_div_natCast, Nat.shiftRight_eq_div_pow]
    rfl

section

variable {number : Float} {negative : Bool} {significand : ℕ} {exponent : ℤ}

theorem integerPart_of_ofFloat
    (held : Exact.ofFloat number = .finite negative significand exponent) :
    integerPart number =
      if negative then -⌊(significand : ℚ) * 2 ^ exponent⌋
      else ⌊(significand : ℚ) * 2 ^ exponent⌋ := by
  have nonneg : (0 : ℚ) ≤ significand * 2 ^ exponent :=
    mul_nonneg (Nat.cast_nonneg _) (zpow_nonneg zero_le_two _)
  rw [integerPart, value, held, Exact.value]
  cases negative with
  | false => simp [nonneg]
  | true =>
      rcases nonneg.eq_or_lt with zero | positive
      · simp [← zero]
      · simp [not_le.mpr positive, Int.ceil_neg]

theorem significand_lt_of_unpack {bits : BitVec Format.binary64.numBits} {sign : Sign}
    {positive : 0 < significand}
    (unpacks : UnpackedFloat.unpack .binary64 bits = .finite sign significand exponent positive) :
    significand < 2 ^ 53 := by
  simp only [UnpackedFloat.unpack] at unpacks
  split at unpacks
  next => split at unpacks <;> cases unpacks
  next =>
    split at unpacks
    next =>
      split at unpacks
      next => cases unpacks
      next =>
        injection unpacks with _ fraction
        have bound := (unpackMantissa bits).isLt
        omega
    next =>
      injection unpacks with _ full
      exact full ▸ (1#1 ++ unpackMantissa bits).isLt

theorem significand_lt (held : Exact.ofFloat number = .finite negative significand exponent) :
    significand < 2 ^ 53 := by
  unfold Exact.ofFloat at held
  split at held
  next => cases held
  next => cases held
  next =>
    injection held with _ nothing
    omega
  next unpacks =>
    injection held with _ same
    exact same ▸ significand_lt_of_unpack unpacks

end

theorem wholePart?_of_isFinite {number : Float} (finite : number.isFinite = true) :
    wholePart? number = some (integerPart number) := by
  rcases isFinite_iff.mp finite with ⟨negative, significand, exponent, held⟩
  rw [integerPart_of_ofFloat held, floor_mul_zpow, wholePart?, held]

theorem wholePart?_of_not_isFinite {number : Float} (extreme : ¬number.isFinite = true) :
    wholePart? number = none ∧ integerPart number = 0 := by
  rw [isFinite_iff] at extreme
  rw [wholePart?, integerPart, value]
  cases held : Exact.ofFloat number with
  | finite => exact absurd ⟨_, _, _, held⟩ extreme
  | notANumber | infinite => simp [Exact.value]

/-- Only a finite double has a whole part, and that is its integer part. -/
theorem wholePart?_eq_some_iff {number : Float} {whole : ℤ} :
    wholePart? number = some whole ↔ number.isFinite = true ∧ integerPart number = whole := by
  by_cases finite : number.isFinite = true
  · simp [wholePart?_of_isFinite finite, finite]
  · simp [(wholePart?_of_not_isFinite finite).1, finite]

/-! ## Whole doubles -/

/-- The double is a whole number, of any size, with a sign that zero has too. -/
def IsWhole (number : Float) (negative : Bool) (magnitude : ℕ) : Prop :=
  ∃ significand exponent, Exact.ofFloat number = .finite negative significand exponent ∧
    Denotes significand exponent magnitude

theorem isWhole_ofMagnitude (negative : Bool) {magnitude : ℕ} (small : magnitude < 2 ^ 53) :
    IsWhole (ofMagnitude negative magnitude) negative magnitude := by
  unfold IsWhole Exact.ofFloat
  rw [unpack_ofMagnitude small, unpacked]
  by_cases positive : 0 < magnitude
  · rw [dif_pos positive]
    refine ⟨_, _, ?_, denotes_fullSignificand small⟩
    cases negative <;> rfl
  · have nothing : magnitude = 0 := by omega
    rw [dif_neg positive]
    refine ⟨0, 0, ?_, nothing ▸ .of_nat 0⟩
    cases negative <;> rfl

namespace IsWhole

variable {number : Float} {negative : Bool} {magnitude : ℕ}

theorem isFinite (whole : IsWhole number negative magnitude) : number.isFinite = true := by
  rcases whole with ⟨significand, exponent, held, -⟩
  exact isFinite_iff.mpr ⟨_, _, _, held⟩

theorem value_eq (whole : IsWhole number negative magnitude) :
    value number = signedMagnitude negative magnitude := by
  rcases whole with ⟨significand, exponent, held, denotes⟩
  rw [value, held, Exact.value, denotes]
  cases negative <;> simp [signedMagnitude]

theorem integerPart_eq (whole : IsWhole number negative magnitude) :
    integerPart number = signedMagnitude negative magnitude := by
  rcases whole with ⟨significand, exponent, held, denotes⟩
  rw [integerPart_of_ofFloat held, denotes, Int.floor_natCast]
  rfl

end IsWhole

/-- The remainder of whole numbers is that of their magnitudes, with the sign of the dividend. -/
theorem remainder_of_isWhole {dividend divisor : Float} {negative sign : Bool}
    {magnitude modulus : ℕ} (isDividend : IsWhole dividend negative magnitude)
    (isDivisor : IsWhole divisor sign modulus) (positive : 0 < modulus)
    (small : modulus < 2 ^ 53) :
    remainder dividend divisor = ofMagnitude negative (magnitude % modulus) := by
  rcases isDividend with ⟨significand, exponent, held, denotes⟩
  rcases isDivisor with ⟨divisorSignificand, divisorExponent, divisorHeld, divisorDenotes⟩
  have something : divisorSignificand ≠ 0 := (divisorDenotes.pos_iff.mpr positive).ne'
  have left := denotes.lower (min_le_left exponent divisorExponent)
  have right := divisorDenotes.lower (min_le_right exponent divisorExponent)
  have bound := Nat.mod_lt magnitude positive
  simp only [remainder, held, divisorHeld, if_neg something]
  exact toFloat_of_denotes negative (left.mod right) (bound.trans small)

/-! ## Integers as doubles -/

section

variable {whole : ℤ}

theorem isWhole_ofInt (small : whole.natAbs < 2 ^ 53) :
    IsWhole (Float.ofInt whole) (decide (whole < 0)) whole.natAbs := by
  rw [ofInt_eq_ofMagnitude small]
  exact isWhole_ofMagnitude _ small

theorem value_ofInt (small : whole.natAbs < 2 ^ 53) : value (Float.ofInt whole) = whole := by
  rw [(isWhole_ofInt small).value_eq, signedMagnitude_natAbs]

theorem integerPart_ofInt (small : whole.natAbs < 2 ^ 53) :
    integerPart (Float.ofInt whole) = whole := by
  rw [(isWhole_ofInt small).integerPart_eq, signedMagnitude_natAbs]

end

@[simp]
theorem integerPart_zero : integerPart 0 = 0 :=
  @integerPart_ofInt 0 (by decide)

end PageTemplates.Number
