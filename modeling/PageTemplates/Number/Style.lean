import PageTemplates.Number.Shortest

/-! # Written numbers

A style settles all that the shortest decimal leaves open: where the notation with a
point ends, what marks the exponent, and the names of what is no finite number.
-/

namespace PageTemplates.Number

structure Style where
  /-- The least power of ten of the first digit that is written with a point alone. -/
  leastPlain : Int
  /-- The greatest such power. -/
  greatestPlain : Int
  /-- A whole number written with a point alone ends in `.0`. -/
  showsWhole : Bool
  /-- A positive exponent has a sign. -/
  signsExponent : Bool
  /-- Zero keeps its negative sign. -/
  signsZero : Bool
  tie : Tie
  notANumberName : String
  infinityName : String

namespace Style

private def zeros (count : Nat) : List Char := List.replicate count '0'

/-- A positive decimal with a point, or as a whole number. -/
def plain (style : Style) (digits : List Char) (exponent : Int) : List Char :=
  let point := digits.length + exponent
  if 0 ≤ exponent then
    digits ++ zeros exponent.toNat ++ (if style.showsWhole then ['.', '0'] else [])
  else if 0 < point then
    digits.take point.toNat ++ '.' :: digits.drop point.toNat
  else
    '0' :: '.' :: zeros (-point).toNat ++ digits

/-- A positive decimal as a number with one digit before the point, times a power of
ten. -/
def scientific (style : Style) (digits : List Char) (power : Int) : List Char :=
  let fraction := digits.drop 1
  digits.take 1 ++ (if fraction.isEmpty then [] else '.' :: fraction) ++ 'e' ::
    (if style.signsExponent && 0 ≤ power then ['+'] else []) ++
    (if power < 0 then ['-'] else []) ++ Nat.toDigits 10 power.natAbs

def decimal (style : Style) (decimal : Decimal) : List Char :=
  let digits := Nat.toDigits 10 decimal.digits
  let power := digits.length - 1 + decimal.exponent
  if style.leastPlain ≤ power ∧ power ≤ style.greatestPlain then
    style.plain digits decimal.exponent
  else
    style.scientific digits power

private def sign (negative : Bool) : List Char := if negative then ['-'] else []

def write (style : Style) (number : Float) : String :=
  match Exact.ofFloat number with
  | .notANumber => style.notANumberName
  | .infinite negative => String.ofList (sign negative ++ style.infinityName.toList)
  | .finite negative 0 _ =>
      String.ofList (sign (negative && style.signsZero) ++ '0' ::
        (if style.showsWhole then ['.', '0'] else []))
  | .finite negative significand exponent =>
      String.ofList (sign negative ++
        style.decimal (shortest style.tie significand exponent))

/-- How a page shows a number: with a point from `1e-6` to below `1e21`, whole
numbers as such, and zero without a sign. -/
def page : Style where
  leastPlain := -6
  greatestPlain := 20
  showsWhole := false
  signsExponent := true
  signsZero := false
  tie := .upper
  notANumberName := "NaN"
  infinityName := "Infinity"

example : page.write 1e21 = "1e+21" := by decide +kernel

example : page.write (-0.0) = "0" := by decide +kernel

example : page.write 1.5e-7 = "1.5e-7" := by decide +kernel

example : page.write 123456789012 = "123456789012" := by decide +kernel

/-- How a message shows a number of an expression: always with a point or an
exponent, the point from `1e-4` to below `1e16`. -/
def message : Style where
  leastPlain := -4
  greatestPlain := 15
  showsWhole := true
  signsExponent := false
  signsZero := true
  tie := .upper
  notANumberName := "NaN"
  infinityName := "inf"

example : message.write 1 = "1.0" := by decide +kernel

example : message.write 1e16 = "1e16" := by decide +kernel

/-- How a number is spelled when it is the key of a YAML mapping. -/
def yamlKey : Style where
  leastPlain := -5
  greatestPlain := 15
  showsWhole := true
  signsExponent := false
  signsZero := true
  tie := .even
  notANumberName := ".nan"
  infinityName := ".inf"

example : yamlKey.write (-0.0) = "-0.0" := by decide +kernel

end Style

def text (number : Float) : String :=
  Style.page.write number

end PageTemplates.Number
