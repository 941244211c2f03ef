import PageTemplates.Number.Exact
import PageTemplates.Text.Blank

/-! # Numbers read from text -/

namespace PageTemplates.Number

def digitValue? (radix : Nat) (character : Char) : Option Nat :=
  let value :=
    if character.isDigit then some (character.toNat - '0'.toNat)
    else if character.isLower then some (character.toNat - 'a'.toNat + 10)
    else if character.isUpper then some (character.toNat - 'A'.toNat + 10)
    else none
  value.filter (· < radix)

example : digitValue? 16 'F' = some 15 := by decide

example : digitValue? 8 '8' = none := by decide

def isDigitOf (radix : Nat) (character : Char) : Bool :=
  (digitValue? radix character).isSome

/-- The number that digits of a radix stand for. A character that is no digit counts
as zero. -/
def ofDigits (radix : Nat) (digits : List Char) : Nat :=
  digits.foldl (fun total digit => total * radix + (digitValue? radix digit).getD 0) 0

/-- The double that digits of a radix add up to, rounded after every digit. -/
def foldDigits (radix : Nat) (digits : List Char) : Float :=
  digits.foldl
    (fun total digit =>
      total * Float.ofNat radix + Float.ofNat ((digitValue? radix digit).getD 0))
    0

/-- The radix that a letter after a leading zero stands for. -/
def radixOf? : Char → Option Nat
  | 'x' | 'X' => some 16
  | 'o' | 'O' => some 8
  | 'b' | 'B' => some 2
  | _ => none

/-- A sign, if there is one, and what follows it: whether the sign is negative. -/
def splitSign : List Char → Bool × List Char
  | '-' :: rest => (true, rest)
  | '+' :: rest => (false, rest)
  | rest => (false, rest)

/-- The exponent part of a decimal: nothing, or a mark, perhaps a sign, and digits. -/
def readExponent? : List Char → Option Int
  | [] => some 0
  | mark :: rest =>
      if mark = 'e' ∨ mark = 'E' then
        let (negative, digits) := splitSign rest
        if digits.isEmpty || !digits.all Char.isDigit then none
        else
          let magnitude : Int := ofDigits 10 digits
          some (if negative then -magnitude else magnitude)
      else
        none

/-- The double nearest to `digits * 10 ^ exponent`. -/
def ofDecimal (digits : Nat) (exponent : Int) : Float :=
  if 0 ≤ exponent then Float.ofScientific digits false exponent.toNat
  else Float.ofScientific digits true (-exponent).toNat

/-- Read a whole text as a decimal: perhaps a sign, digits with at most one point, at
least one digit in all, and perhaps an exponent. The double nearest to it is the
result. -/
def readDecimal? (text : List Char) : Option Float :=
  let (negative, body) := splitSign text
  let whole := body.takeWhile Char.isDigit
  let afterWhole := body.dropWhile Char.isDigit
  let (fraction, rest) :=
    match afterWhole with
    | '.' :: tail => (tail.takeWhile Char.isDigit, tail.dropWhile Char.isDigit)
    | tail => ([], tail)
  if whole.isEmpty && fraction.isEmpty then
    none
  else
    (readExponent? rest).map fun exponent =>
      let magnitude :=
        ofDecimal (ofDigits 10 (whole ++ fraction)) (exponent - fraction.length)
      if negative then -magnitude else magnitude

example : readDecimal? "-.5e1".toList = some (-5) := by decide +kernel

example : readDecimal? "1e".toList = none := by decide +kernel

def isDecimalCharacter (character : Char) : Bool :=
  character.isDigit || character = '.' || character = 'e' || character = 'E' ||
    character = '+' || character = '-'

/-- The number a string converts to, blanks around it aside. The empty text is zero,
and what is neither a decimal, an infinity nor digits after a radix mark is no
number. -/
def ofText (text : String) : Float :=
  let body := Text.trim text.toList
  let decimal :=
    if body.all isDecimalCharacter then (readDecimal? body).getD notANumber
    else notANumber
  match body with
  | [] => 0
  | '0' :: mark :: digits =>
      match radixOf? mark with
      | some radix =>
          if digits.isEmpty || !digits.all (isDigitOf radix) then notANumber
          else foldDigits radix digits
      | none => decimal
  | _ =>
      if body = "Infinity".toList ∨ body = "+Infinity".toList then infinity
      else if body = "-Infinity".toList then -infinity
      else decimal

example : ofText " 0x1f\n" = 31 := by decide +kernel

example : ofText "" = 0 := by decide +kernel

end PageTemplates.Number
