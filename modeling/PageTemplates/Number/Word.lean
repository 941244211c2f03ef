import PageTemplates.Number.Exact

/-! # Doubles as 32-bit words

Shifts and bitwise operations work on the whole part of a number modulo `2 ^ 32`.
-/

namespace PageTemplates.Number

/-- The whole part of a number modulo `2 ^ 32`. The remainder of a division toward
zero may be negative; adding the modulus once corrects it. What is not finite
counts as zero. -/
def word (number : Float) : UInt32 :=
  match wholePart? number with
  | none => 0
  | some whole =>
      let rest := whole.tmod 0x100000000
      let corrected := if rest < 0 then rest + 0x100000000 else rest
      UInt32.ofNatClamp corrected.toNat

example : word (-1.0) = 4294967295 := by decide

example : word 4294967297.5 = 1 := by decide

def signedWord (number : Float) : Int32 :=
  (word number).toInt32

/-- The operations on words. A shift moves by the right operand modulo 32. -/
inductive WordOperator
  | shiftLeft
  | shiftRight
  | shiftRightZero
  | both
  | either
  | exactlyOne
  deriving Repr, DecidableEq

def WordOperator.apply (operator : WordOperator) (left right : Float) : Float :=
  let signed := signedWord left
  let unsigned := word left
  let operand := word right
  let distance := operand &&& 31
  Float.ofInt <|
    match operator with
    | .shiftLeft => (unsigned <<< distance).toInt32.toInt
    | .shiftRight => (signed >>> distance.toInt32).toInt
    | .shiftRightZero => (unsigned >>> distance).toNat
    | .both => (unsigned &&& operand).toInt32.toInt
    | .either => (unsigned ||| operand).toInt32.toInt
    | .exactlyOne => (unsigned ^^^ operand).toInt32.toInt

example : WordOperator.shiftRight.apply (-8.0) 33.0 = -4.0 := by decide +kernel

example : WordOperator.shiftRightZero.apply (-1.0) 28.0 = 15.0 := by decide +kernel

/-- Every bit of the word inverted. -/
def invertWord (number : Float) : Float :=
  Float.ofInt (~~~signedWord number).toInt

example : invertWord 5.0 = -6.0 := by decide +kernel

end PageTemplates.Number
