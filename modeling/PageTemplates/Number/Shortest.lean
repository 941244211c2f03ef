import PageTemplates.Number.Exact

/-! # Shortest decimals

The decimal with the fewest digits that reads back as a given double, and of those
the nearest to it. All decimals that read back lie between the midpoints to the two
neighbouring doubles; the midpoints belong to them when the significand is even.
-/

namespace PageTemplates.Number

/-- A positive decimal, `digits * 10 ^ exponent`. -/
structure Decimal where
  digits : Nat
  exponent : Int
  deriving Repr, DecidableEq

inductive Tie
  | upper
  | even
  deriving Repr, DecidableEq

namespace Decimal

/-- The same number without trailing zeros among the digits. -/
def withoutTrailingZeros (decimal : Decimal) : Decimal :=
  if decimal.digits ≠ 0 ∧ decimal.digits % 10 = 0 then
    withoutTrailingZeros ⟨decimal.digits / 10, decimal.exponent + 1⟩
  else
    decimal
termination_by decimal.digits
decreasing_by
  rename_i condition
  exact Nat.div_lt_self (Nat.pos_of_ne_zero condition.1) (by decide)

end Decimal

/-- The decimals that read back as a double, as an interval of numbers over a common
denominator. `value` is the double itself. -/
structure ReadingInterval where
  low : Nat
  value : Nat
  high : Nat
  denominator : Nat
  closed : Bool

namespace ReadingInterval

/-- The interval of `significand * 2 ^ exponent`. Below the smallest significand of
full length the doubles lie twice as dense, so the lower midpoint is nearer. -/
def ofBinary (significand : Nat) (exponent : Int) : ReadingInterval :=
  let unit := 1 <<< exponent.toNat
  let lowerGap := if significand = 1 <<< 52 then 1 else 2
  { low := (4 * significand - lowerGap) * unit
    value := 4 * significand * unit
    high := (4 * significand + 2) * unit
    denominator := 4 <<< (-exponent).toNat
    closed := significand % 2 = 0 }

/-- The number of digits before the point, or minus the number of zeros that follow
the point directly. -/
def pointPosition (interval : ReadingInterval) : Int :=
  if interval.denominator ≤ interval.value then
    (Nat.toDigits 10 (interval.value / interval.denominator)).length
  else
    1 - (Nat.toDigits 10 (interval.denominator / interval.value)).length

/-- The nearest of the interval's decimals that are multiples of `10 ^ exponent`, of
the two that enclose the value. -/
def nearest? (interval : ReadingInterval) (tie : Tie) (exponent : Int) : Option Decimal :=
  let scale := Nat.pow 10 (-exponent).toNat
  let step := interval.denominator * Nat.pow 10 exponent.toNat
  let holds (multiple : Nat) : Bool :=
    let point := multiple * step
    if interval.closed then
      interval.low * scale ≤ point && point ≤ interval.high * scale
    else
      interval.low * scale < point && point < interval.high * scale
  let lower := interval.value * scale / step
  let upper := lower + 1
  let below := interval.value * scale - lower * step
  let above := upper * step - interval.value * scale
  let upperWins :=
    match compare below above with
    | .lt => false
    | .gt => true
    | .eq => match tie with
      | .upper => true
      | .even => lower % 2 = 1
  match holds lower, holds upper with
  | false, false => none
  | true, false => some ⟨lower, exponent⟩
  | false, true => some ⟨upper, exponent⟩
  | true, true => some ⟨if upperWins then upper else lower, exponent⟩

/-- Try `attempts` ever finer grids of decimals, from the multiples of
`10 ^ exponent` on. -/
def search (interval : ReadingInterval) (tie : Tie) : (attempts : Nat) → Int → Decimal
  | 0, exponent =>
      ⟨interval.value * Nat.pow 10 (-exponent).toNat /
        (interval.denominator * Nat.pow 10 exponent.toNat), exponent⟩
  | attempts + 1, exponent =>
      match interval.nearest? tie exponent with
      | some decimal => decimal
      | none => search interval tie attempts (exponent - 1)

end ReadingInterval

/-- The shortest decimal that reads back as `significand * 2 ^ exponent`. Seventeen
digits tell any two doubles apart. -/
def shortest (tie : Tie) (significand : Nat) (exponent : Int) : Decimal :=
  let interval := ReadingInterval.ofBinary significand exponent
  (interval.search tie 17 (interval.pointPosition - 1)).withoutTrailingZeros

/-- One tenth. -/
example : shortest .upper 0x1999999999999A (-56) = ⟨1, -1⟩ := by decide +kernel

/-- The least positive double. -/
example : shortest .upper 1 (-1074) = ⟨5, -324⟩ := by decide +kernel

/-- Two decimals of seventeen digits are equally near to `2 ^ -25`. -/
example : shortest .upper (1 <<< 52) (-77) = ⟨29802322387695313, -24⟩ := by decide +kernel

example : shortest .even (1 <<< 52) (-77) = ⟨29802322387695312, -24⟩ := by decide +kernel

end PageTemplates.Number
