/-! # The exact value of a double

Every finite double is a whole number times a power of two. Remainders, integer
parts and shortest decimals are computed on that exact value.
-/

namespace PageTemplates.Number

open Float.Model (UnpackedFloat Format)

/-- What a double stands for. A finite one is `significand * 2 ^ exponent`, with a
sign that zero has too. -/
inductive Exact
  | notANumber
  | infinite (negative : Bool)
  | finite (negative : Bool) (significand : Nat) (exponent : Int)
  deriving Repr, DecidableEq

private def isNegative : UnpackedFloat.Sign → Bool
  | .negative => true
  | .positive => false

private def signOf (negative : Bool) : UnpackedFloat.Sign :=
  if negative then .negative else .positive

namespace Exact

def ofFloat (number : Float) : Exact :=
  match number.toModel.unpack with
  | .notANumber => .notANumber
  | .infinity sign => .infinite (isNegative sign)
  | .zero sign => .finite (isNegative sign) 0 0
  | .finite sign mantissa exponent _ => .finite (isNegative sign) mantissa exponent

example : ofFloat 1.5 = .finite false (3 <<< 51) (-52) := by decide

example : ofFloat (-0.0) = .finite true 0 0 := by decide

/-- The double nearest to an exact value, the even one of two. -/
def toFloat : Exact → Float
  | .notANumber => .ofModel (.pack .notANumber)
  | .infinite negative => .ofModel (.pack (.infinity (signOf negative)))
  | .finite negative 0 _ => .ofModel (.pack (.zero (signOf negative)))
  | .finite negative significand exponent =>
      .ofModel (.pack (UnpackedFloat.round Format.binary64 (signOf negative) significand
        exponent))

example : toFloat (.finite true 3 (-1)) = -1.5 := by decide

end Exact

def notANumber : Float := Exact.notANumber.toFloat

def infinity : Float := (Exact.infinite false).toFloat

/-- Whether the sign of a double is negative, which zero's may be. -/
def hasNegativeSign (number : Float) : Bool :=
  match Exact.ofFloat number with
  | .notANumber => false
  | .infinite negative => negative
  | .finite negative _ _ => negative

/-- The whole part of a finite double, without its fraction; none of any other. -/
def wholePart? (number : Float) : Option Int :=
  match Exact.ofFloat number with
  | .finite negative significand exponent =>
      let magnitude :=
        if 0 ≤ exponent then significand <<< exponent.toNat
        else significand >>> (-exponent).toNat
      some (if negative then -magnitude else magnitude)
  | _ => none

example : wholePart? (-7.9) = some (-7) := by decide

/-- The remainder of a division that rounds its quotient toward zero. It is exact and
has the sign of the dividend. -/
def remainder (dividend divisor : Float) : Float :=
  match Exact.ofFloat dividend, Exact.ofFloat divisor with
  | .finite negative significand exponent, .finite _ divisorSignificand divisorExponent =>
      if divisorSignificand = 0 then
        notANumber
      else
        let unit := min exponent divisorExponent
        let scaled := significand <<< (exponent - unit).toNat
        let divisorScaled := divisorSignificand <<< (divisorExponent - unit).toNat
        Exact.toFloat (.finite negative (scaled % divisorScaled) unit)
  | .finite .., .infinite _ => dividend
  | _, _ => notANumber

example : remainder (-7.5) 2.0 = -1.5 := by decide

example : remainder (-4.0) 2.0 = -0.0 := by decide

end PageTemplates.Number
