import Mathlib
import PageTemplates.Number.Exact
import PageTemplates.Proofs.Value.Order

/-! # Whole numbers as doubles

A whole number of at most 53 bits is a double exactly. Rounding it changes nothing, whatever
significand and exponent it is given by, so its negation, its sum with another one and its
conversion back to an integer are exact as well.
-/

namespace PageTemplates.Number

open Float.Model (Format UnpackedFloat totalExponent)
open Float.Model.UnpackedFloat

/-! ## Significands and exponents -/

/-- A significand and an exponent stand for a whole number. -/
def Denotes (significand : ℕ) (exponent : ℤ) (magnitude : ℕ) : Prop :=
  (significand : ℚ) * 2 ^ exponent = magnitude

theorem log2_mul_two_pow {number : ℕ} (positive : 0 < number) (amount : ℕ) :
    (number * 2 ^ amount).log2 = number.log2 + amount := by
  have lower := Nat.log2_self_le positive.ne'
  have upper := Nat.lt_log2_self (n := number)
  rw [Nat.log2_eq_iff (by positivity), add_right_comm, pow_add, pow_add _ _ amount]
  exact ⟨Nat.mul_le_mul_right _ lower, Nat.mul_lt_mul_of_pos_right upper (by positivity)⟩

namespace Denotes

variable {significand other magnitude otherMagnitude : ℕ} {exponent : ℤ}

theorem iff_of_nonneg (nonneg : 0 ≤ exponent) :
    Denotes significand exponent magnitude ↔ magnitude = significand * 2 ^ exponent.toNat := by
  have power : (2 : ℚ) ^ exponent = 2 ^ exponent.toNat := by
    rw [← zpow_natCast, Int.toNat_of_nonneg nonneg]
  rw [Denotes, power, eq_comm]
  exact_mod_cast Iff.rfl

theorem iff_of_nonpos (nonpos : exponent ≤ 0) :
    Denotes significand exponent magnitude ↔ significand = magnitude * 2 ^ (-exponent).toNat := by
  have power : (2 : ℚ) ^ exponent = (2 ^ (-exponent).toNat)⁻¹ := by
    rw [← zpow_natCast, Int.toNat_of_nonneg (by omega), zpow_neg, inv_inv]
  rw [Denotes, power, mul_inv_eq_iff_eq_mul₀ (pow_ne_zero _ two_ne_zero)]
  exact_mod_cast Iff.rfl

theorem of_nat (magnitude : ℕ) : Denotes magnitude 0 magnitude := by
  simp [Denotes]

theorem pos_iff (denotes : Denotes significand exponent magnitude) :
    0 < significand ↔ 0 < magnitude := by
  have power : (0 : ℚ) < 2 ^ exponent := zpow_pos two_pos exponent
  rw [← Nat.cast_pos (α := ℚ), ← Nat.cast_pos (α := ℚ), ← denotes,
    mul_pos_iff_of_pos_right power]

theorem le_iff (denotes : Denotes significand exponent magnitude)
    (otherDenotes : Denotes other exponent otherMagnitude) :
    significand ≤ other ↔ magnitude ≤ otherMagnitude := by
  have power : (0 : ℚ) < 2 ^ exponent := zpow_pos two_pos exponent
  rw [← Nat.cast_le (α := ℚ), ← Nat.cast_le (α := ℚ), ← denotes, ← otherDenotes,
    mul_le_mul_iff_left₀ power]

theorem log2 (denotes : Denotes significand exponent magnitude) (positive : 0 < magnitude) :
    (significand.log2 : ℤ) + exponent = magnitude.log2 := by
  rcases le_total 0 exponent with nonneg | nonpos
  · rw [(iff_of_nonneg nonneg).mp denotes, log2_mul_two_pow (denotes.pos_iff.mpr positive)]
    omega
  · rw [(iff_of_nonpos nonpos).mp denotes, log2_mul_two_pow positive]
    omega

/-- Powers of two move from the exponent to the significand. -/
theorem lower (denotes : Denotes significand exponent magnitude) {unit : ℤ}
    (low : unit ≤ exponent) :
    Denotes (significand <<< (exponent - unit).toNat) unit magnitude := by
  have power : (2 : ℚ) ^ (exponent - unit).toNat * 2 ^ unit = 2 ^ exponent := by
    rw [← zpow_natCast, Int.toNat_of_nonneg (by omega), ← zpow_add₀ two_ne_zero, sub_add_cancel]
  rw [Denotes, Nat.shiftLeft_eq, Nat.cast_mul, Nat.cast_pow, Nat.cast_ofNat, mul_assoc, power]
  exact denotes

theorem sub (denotes : Denotes significand exponent magnitude)
    (otherDenotes : Denotes other exponent otherMagnitude) (fits : otherMagnitude ≤ magnitude) :
    Denotes (significand - other) exponent (magnitude - otherMagnitude) := by
  have significandFits := (otherDenotes.le_iff denotes).mpr fits
  rw [Denotes, Nat.cast_sub fits, Nat.cast_sub significandFits, sub_mul, denotes, otherDenotes]

theorem mod (denotes : Denotes significand exponent magnitude)
    (otherDenotes : Denotes other exponent otherMagnitude) :
    Denotes (significand % other) exponent (magnitude % otherMagnitude) := by
  rcases le_total 0 exponent with nonneg | nonpos
  · rw [iff_of_nonneg nonneg] at *
    rw [denotes, otherDenotes, Nat.mul_mod_mul_right]
  · rw [iff_of_nonpos nonpos] at *
    rw [denotes, otherDenotes, Nat.mul_mod_mul_right]

end Denotes

/-! ## Significands of full length -/

/-- The significand of 53 bits of a whole number that has no more and is not zero. -/
def fullSignificand (magnitude : ℕ) : ℕ :=
  magnitude * 2 ^ (52 - magnitude.log2)

theorem fullSignificand_pos {magnitude : ℕ} (positive : 0 < magnitude) :
    0 < fullSignificand magnitude :=
  Nat.mul_pos positive (Nat.two_pow_pos _)

section

variable {magnitude : ℕ}

theorem log2_le (small : magnitude < 2 ^ 53) : magnitude.log2 ≤ 52 := by
  rcases Nat.eq_zero_or_pos magnitude with rfl | positive
  · simp
  · exact Nat.le_of_lt_succ ((Nat.log2_lt positive.ne').mpr small)

theorem log2_fullSignificand (positive : 0 < magnitude) (small : magnitude < 2 ^ 53) :
    (fullSignificand magnitude).log2 = 52 := by
  have bound := log2_le small
  rw [fullSignificand, log2_mul_two_pow positive]
  omega

theorem denotes_fullSignificand (small : magnitude < 2 ^ 53) :
    Denotes (fullSignificand magnitude) (magnitude.log2 - 52) magnitude := by
  have bound := log2_le small
  have amount : (0 - ((magnitude.log2 : ℤ) - 52)).toNat = 52 - magnitude.log2 := by omega
  have lowered := (Denotes.of_nat magnitude).lower
    (show (magnitude.log2 : ℤ) - 52 ≤ 0 by omega)
  rwa [amount, Nat.shiftLeft_eq] at lowered

end

/-- A whole number in the form that doubles have between unpacking and packing. -/
def unpacked (sign : Sign) (magnitude : ℕ) : UnpackedFloat :=
  if positive : 0 < magnitude then
    .finite sign (fullSignificand magnitude) (magnitude.log2 - 52) (fullSignificand_pos positive)
  else
    .zero sign

/-! ## Rounding -/

theorem shiftRight_mul_two_pow (mantissa amount : ℕ) :
    ExtendedMantissa.mk (mantissa * 2 ^ amount) false false >>> amount =
      ExtendedMantissa.mk mantissa false false := by
  change Nat.repeat ExtendedMantissa.shiftRightOne amount _ = _
  induction amount generalizing mantissa with
  | zero => simp [Nat.repeat]
  | succ amount induction =>
      have regrouped : mantissa * 2 ^ (amount + 1) = mantissa * 2 * 2 ^ amount := by ring
      rw [Nat.repeat, regrouped, induction]
      simp [ExtendedMantissa.shiftRightOne]

theorem decreaseExponent_eq (significand : ℕ) (exponent unit : ℤ) :
    decreaseExponent significand exponent unit =
      (significand <<< (exponent - min exponent unit).toNat, min exponent unit) := by
  have amount : (exponent - min exponent unit).toNat = (exponent - unit).toNat := by omega
  rw [decreaseExponent, amount, Prod.mk.injEq]
  exact ⟨rfl, by omega⟩

section

variable {significand magnitude : ℕ} {exponent : ℤ}

theorem targetExponent_of_denotes (denotes : Denotes significand exponent magnitude)
    (positive : 0 < magnitude) :
    Format.binary64.targetExponent (totalExponent significand exponent) =
      magnitude.log2 - 52 := by
  have total := denotes.log2 positive
  simp only [Format.targetExponent, totalExponent, Format.mantissaBits, Format.minExponent]
  omega

/-- Only zeros are shifted out of the significand of a whole number. -/
theorem shiftToTargetExponent_of_denotes (denotes : Denotes significand exponent magnitude)
    (positive : 0 < magnitude) (small : magnitude < 2 ^ 53)
    (low : exponent ≤ magnitude.log2 - 52) :
    shiftToTargetExponent .binary64 significand exponent .exact =
      (ExtendedMantissa.mk (fullSignificand magnitude) false false,
        (magnitude.log2 : ℤ) - 52) := by
  have bound := log2_le small
  let amount := (magnitude.log2 - 52 - exponent).toNat
  have shifted : significand = fullSignificand magnitude * 2 ^ amount := by
    rw [(Denotes.iff_of_nonpos (by omega)).mp denotes, fullSignificand, mul_assoc, ← pow_add]
    congr 2
    omega
  simp only [shiftToTargetExponent, targetExponent_of_denotes denotes positive, shiftToExponent,
    ExtendedMantissa.ofMantissaAndAccuracy]
  rw [shifted, shiftRight_mul_two_pow]
  congr 1
  omega

theorem roundWithAccuracy_of_denotes (sign : Sign)
    (denotes : Denotes significand exponent magnitude) (positive : 0 < magnitude)
    (small : magnitude < 2 ^ 53) (low : exponent ≤ magnitude.log2 - 52) :
    roundWithAccuracy .binary64 sign significand exponent .exact = unpacked sign magnitude := by
  -- The significand is of full length after the first shift, so the second one, which would
  -- correct an overflow, leaves it.
  have first := shiftToTargetExponent_of_denotes denotes positive small low
  have second :=
    shiftToTargetExponent_of_denotes (denotes_fullSignificand small) positive small le_rfl
  have rounded : (ExtendedMantissa.mk (fullSignificand magnitude) false false).roundedMantissa =
      fullSignificand magnitude := rfl
  simp only [roundWithAccuracy, first, rounded, second]
  rw [dif_neg (fullSignificand_pos positive).ne', unpacked, dif_pos positive]

theorem round_of_denotes (sign : Sign) (denotes : Denotes significand exponent magnitude)
    (positive : 0 < magnitude) (small : magnitude < 2 ^ 53) :
    UnpackedFloat.round .binary64 sign significand exponent = unpacked sign magnitude := by
  simp only [UnpackedFloat.round, targetExponent_of_denotes denotes positive,
    decreaseExponent_eq]
  exact roundWithAccuracy_of_denotes sign (denotes.lower (min_le_left _ _)) positive small
    (min_le_right _ _)

theorem normalize_of_denotes (denotes : Denotes significand exponent magnitude)
    (small : magnitude < 2 ^ 53) :
    UnpackedFloat.normalize .binary64 significand exponent .positive =
      unpacked .positive magnitude := by
  rcases Nat.eq_zero_or_pos magnitude with rfl | positive
  · have nothing : significand = 0 := by
      have positive := denotes.pos_iff
      omega
    subst nothing
    rfl
  · have order : compare (significand : ℤ) 0 = .gt := by
      rw [Int.compare_eq_gt]
      exact_mod_cast denotes.pos_iff.mpr positive
    rw [UnpackedFloat.normalize, order]
    exact round_of_denotes .positive denotes positive small

end

/-! ## Operations -/

section

variable {magnitude : ℕ}

theorem neg_unpacked (magnitude : ℕ) :
    (unpacked .positive magnitude).neg = unpacked .negative magnitude := by
  rw [unpacked, unpacked]
  split <;> rfl

theorem add_unpacked {less : ℕ} (positive : 0 < less) (below : less < magnitude)
    (small : magnitude < 2 ^ 53) :
    UnpackedFloat.add .binary64 (unpacked .negative less) (unpacked .positive magnitude) =
      unpacked .positive (magnitude - less) := by
  let unit := min ((less.log2 : ℤ) - 52) (magnitude.log2 - 52)
  have subtrahend := (denotes_fullSignificand (below.trans small)).lower
    (show unit ≤ less.log2 - 52 from min_le_left _ _)
  have minuend := (denotes_fullSignificand small).lower
    (show unit ≤ magnitude.log2 - 52 from min_le_right _ _)
  have ordered := (subtrahend.le_iff minuend).mpr below.le
  have sum : Sign.apply .negative (fullSignificand less <<< (less.log2 - 52 - unit).toNat : ℕ) +
      Sign.apply .positive (fullSignificand magnitude <<< (magnitude.log2 - 52 - unit).toNat : ℕ) =
      (fullSignificand magnitude <<< (magnitude.log2 - 52 - unit).toNat -
        fullSignificand less <<< (less.log2 - 52 - unit).toNat : ℕ) := by
    simp only [Sign.apply]
    omega
  have rounded := normalize_of_denotes (minuend.sub subtrahend below.le) (by omega)
  rw [← sum] at rounded
  rw [unpacked, unpacked, dif_pos positive, dif_pos (positive.trans below)]
  exact rounded

theorem mul_one_unpacked (small : magnitude < 2 ^ 53) :
    UnpackedFloat.mul .binary64 (unpacked .positive magnitude)
      (.finite .positive (2 ^ 52) (-52) (by decide)) = unpacked .positive magnitude := by
  rw [unpacked]
  split
  next positive =>
    have amount : (magnitude.log2 - 52 - (magnitude.log2 - 52 + -52) : ℤ).toNat = 52 := by omega
    have denotes := (denotes_fullSignificand small).lower
      (show (magnitude.log2 : ℤ) - 52 + -52 ≤ magnitude.log2 - 52 by omega)
    rw [amount, Nat.shiftLeft_eq] at denotes
    have rounded := roundWithAccuracy_of_denotes .positive denotes positive small (by omega)
    rw [unpacked, dif_pos positive] at rounded
    exact rounded
  next => rfl

theorem toInt_unpacked (sign : Sign) (least greatest : ℤ) (small : magnitude < 2 ^ 53) :
    (unpacked sign magnitude).toInt least greatest = sign.apply magnitude := by
  rw [unpacked]
  split
  next positive =>
    have bound := log2_le small
    have raised : ((magnitude.log2 : ℤ) - 52 - 0).toNat = 0 := by omega
    have lowered : (0 - ((magnitude.log2 : ℤ) - 52 - (0 : ℕ))).toNat = 52 - magnitude.log2 := by
      omega
    simp only [UnpackedFloat.toInt, roundToInt, decreaseExponent, shiftToExponent, raised,
      lowered, Nat.shiftLeft_zero, ExtendedMantissa.ofMantissaAndAccuracy]
    rw [fullSignificand, shiftRight_mul_two_pow]
  next nothing =>
    have zero : magnitude = 0 := by omega
    subst zero
    cases sign <;> rfl

end

/-! ## Packing -/

theorem toNat_append_fraction (fraction : BitVec 52) :
    (1#1 ++ fraction).toNat = 2 ^ 52 + fraction.toNat := by
  rw [BitVec.toNat_append, ← Nat.shiftLeft_add_eq_or_of_lt fraction.isLt]
  rfl

theorem ofNat_ne_of_toNat_ne {width number : ℕ} {bits : BitVec width} (small : number < 2 ^ width)
    (apart : number ≠ bits.toNat) : BitVec.ofNat width number ≠ bits := by
  rintro rfl
  rw [BitVec.toNat_ofNat, Nat.mod_eq_of_lt small] at apart
  exact apart rfl

section

variable {significand : ℕ} {exponent : ℤ}

/-- A significand of full length is stored without its first bit, next to the biased exponent. -/
theorem pack_finite (sign : Sign) (positive : 0 < significand) (full : significand.log2 = 52)
    {biased : ℕ} (shifted : exponent + 1075 = biased) (greatest : biased < 2047) :
    UnpackedFloat.pack .binary64 (.finite sign significand exponent positive) =
      packComponents .binary64 sign (BitVec.ofNat 11 biased) (BitVec.ofNat 52 significand) := by
  have sum : exponent + (Format.binary64.exponentBias : ℤ) +
      (Format.binary64.mantissaBitsWithoutImplicit : ℤ) = biased := by
    simp only [Format.exponentBias]
    omega
  simp only [UnpackedFloat.pack, sum, full, Format.mantissaBits]
  rw [if_neg (by omega), if_pos trivial, Int.toNat_natCast]

theorem unpack_pack_finite (sign : Sign) (positive : 0 < significand)
    (full : significand.log2 = 52) (least : -1074 ≤ exponent) (greatest : exponent ≤ 971) :
    (Float.Model.pack (.finite sign significand exponent positive)).unpack =
      .finite sign significand exponent positive := by
  have range := (Nat.log2_eq_iff positive.ne').mp full
  obtain ⟨biased, shifted⟩ : ∃ biased : ℕ, exponent + 1075 = biased :=
    Int.eq_ofNat_of_zero_le (by omega)
  have small : biased < 2 ^ 11 := by omega
  have notGreatest : BitVec.ofNat 11 biased ≠ -1#11 :=
    ofNat_ne_of_toNat_ne small (show biased ≠ 2047 by omega)
  have notLeast : BitVec.ofNat 11 biased ≠ 0#11 :=
    ofNat_ne_of_toNat_ne small (show biased ≠ 0 by omega)
  have significandBits : (1#1 ++ BitVec.ofNat 52 significand).toNat = significand := by
    rw [toNat_append_fraction, BitVec.toNat_ofNat]
    omega
  have exponentBits : (BitVec.ofNat 11 biased).toNat = biased := by
    rw [BitVec.toNat_ofNat, Nat.mod_eq_of_lt small]
  have unbiased : (biased : ℤ) - (Format.binary64.exponentBias + (52 : ℕ)) = exponent := by
    simp only [Format.exponentBias]
    omega
  simp only [Float.Model.pack, Float.Model.unpack, UnpackedFloat.unpack,
    pack_finite sign positive full shifted (by omega), unpackExponent_packComponents,
    unpackMantissa_packComponents, unpackSign_packComponents, Sign.ofBitVec_toBitVec]
  rw [if_neg notGreatest, if_neg notLeast]
  simp only [significandBits, exponentBits, unbiased]

end

theorem unpack_pack_unpacked (sign : Sign) {magnitude : ℕ} (small : magnitude < 2 ^ 53) :
    (Float.Model.pack (unpacked sign magnitude)).unpack = unpacked sign magnitude := by
  rw [unpacked]
  split
  next positive =>
    have bound := log2_le small
    exact unpack_pack_finite sign _ (log2_fullSignificand positive small) (by omega) (by omega)
  next => cases sign <;> rfl

/-! ## Doubles -/

/-- The double of a whole number with a sign, which zero has too. -/
def ofMagnitude (negative : Bool) (magnitude : ℕ) : Float :=
  .ofModel (.pack (unpacked (if negative then .negative else .positive) magnitude))

theorem toFloat_of_denotes (negative : Bool) {significand magnitude : ℕ} {exponent : ℤ}
    (denotes : Denotes significand exponent magnitude) (small : magnitude < 2 ^ 53) :
    Exact.toFloat (.finite negative significand exponent) = ofMagnitude negative magnitude := by
  have packed (sign : Sign) (positive : 0 < magnitude) :
      Float.ofModel (.pack (UnpackedFloat.round .binary64 sign significand exponent)) =
        .ofModel (.pack (unpacked sign magnitude)) := by
    rw [round_of_denotes sign denotes positive small]
  cases significand with
  | zero =>
      have nothing : magnitude = 0 := by simpa [Denotes] using denotes.symm
      subst nothing
      cases negative <;> rfl
  | succ significand =>
      have positive := denotes.pos_iff.mp significand.succ_pos
      cases negative with
      | true => exact packed .negative positive
      | false => exact packed .positive positive

section

variable {negative : Bool} {magnitude : ℕ}

theorem unpack_ofMagnitude (small : magnitude < 2 ^ 53) :
    (ofMagnitude negative magnitude).toModel.unpack =
      unpacked (if negative then .negative else .positive) magnitude :=
  unpack_pack_unpacked _ small

theorem ofMagnitude_lt_zero (small : magnitude < 2 ^ 53) :
    ofMagnitude negative magnitude < 0 ↔ negative = true ∧ 0 < magnitude := by
  have zero : (0 : Float).toModel.unpack = .zero .positive := rfl
  rw [Value.lt_iff_compare, unpack_ofMagnitude small, zero, unpacked]
  split
  next positive =>
    cases negative with
    | true => simp [UnpackedFloat.compare, positive]
    | false => simp [UnpackedFloat.compare]
  next nothing => simp [UnpackedFloat.compare, nothing]

theorem neg_ofMagnitude (small : magnitude < 2 ^ 53) :
    -ofMagnitude false magnitude = ofMagnitude true magnitude := by
  change Float.ofModel (.pack (ofMagnitude false magnitude).toModel.unpack.neg) = _
  rw [unpack_ofMagnitude small]
  exact congrArg (fun result => Float.ofModel (.pack result)) (neg_unpacked magnitude)

theorem add_ofMagnitude {less : ℕ} (positive : 0 < less) (below : less < magnitude)
    (small : magnitude < 2 ^ 53) :
    ofMagnitude true less + ofMagnitude false magnitude =
      ofMagnitude false (magnitude - less) := by
  change Float.ofModel (.pack (UnpackedFloat.add .binary64 (ofMagnitude true less).toModel.unpack
    (ofMagnitude false magnitude).toModel.unpack)) = _
  rw [unpack_ofMagnitude (below.trans small), unpack_ofMagnitude small]
  exact congrArg (fun result => Float.ofModel (.pack result)) (add_unpacked positive below small)

theorem toUInt32_ofMagnitude (small : magnitude < 2 ^ 53) :
    (ofMagnitude negative magnitude).toUInt32 =
      UInt32.ofNatClamp (if negative then 0 else magnitude) := by
  change UInt32.ofNatClamp
    ((ofMagnitude negative magnitude).toModel.unpack.toInt 0 (UInt32.size - 1)).toNat = _
  rw [unpack_ofMagnitude small, toInt_unpacked _ _ _ small]
  cases negative <;> simp [Sign.apply]

/-! ## Conversions from integers -/

theorem toFloat_toUInt64 (small : magnitude < 2 ^ 53) :
    magnitude.toUInt64.toFloat = ofMagnitude false magnitude := by
  have kept : magnitude.toUInt64.toNat = magnitude := by
    rw [Nat.toUInt64_eq, UInt64.toNat_ofNat']
    omega
  change Float.ofModel
    (.pack (UnpackedFloat.normalize .binary64 magnitude.toUInt64.toNat 0 .positive)) = _
  rw [kept, normalize_of_denotes (.of_nat magnitude) small]
  rfl

theorem ofNat_eq_ofMagnitude (small : magnitude < 2 ^ 53) :
    Float.ofNat magnitude = ofMagnitude false magnitude := by
  -- The conversion reads a decimal: the digits, converted, times the power of ten that is one.
  have one : Float.exactlyRepresentablePowersOfTen[0].toModel.unpack =
      .finite .positive (2 ^ 52) (-52) (by decide) := by
    rfl
  have read : Float.ofNat magnitude =
      magnitude.toUInt64.toFloat * Float.exactlyRepresentablePowersOfTen[0] := by
    change Float.ofScientific _ _ _ = _
    rw [Float.ofScientific, dif_pos ⟨small, by omega⟩]
    rfl
  rw [read, toFloat_toUInt64 small]
  change Float.ofModel (.pack (UnpackedFloat.mul .binary64
    (ofMagnitude false magnitude).toModel.unpack
    Float.exactlyRepresentablePowersOfTen[0].toModel.unpack)) = _
  rw [one, unpack_ofMagnitude small]
  exact congrArg (fun result => Float.ofModel (.pack result)) (mul_one_unpacked small)

theorem ofInt_eq_ofMagnitude {whole : ℤ} (small : whole.natAbs < 2 ^ 53) :
    Float.ofInt whole = ofMagnitude (decide (whole < 0)) whole.natAbs := by
  cases whole with
  | ofNat magnitude =>
      have nonnegative : decide (Int.ofNat magnitude < 0) = false := by simp
      rw [nonnegative]
      exact ofNat_eq_ofMagnitude small
  | negSucc magnitude =>
      have negative : decide (Int.negSucc magnitude < 0) = true := by simp
      rw [negative, ← neg_ofMagnitude small, ← ofNat_eq_ofMagnitude small]
      rfl

end

end PageTemplates.Number
