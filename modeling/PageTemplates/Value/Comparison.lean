import PageTemplates.Value
import PageTemplates.Text.Units

/-! # Comparing values

Order, strict equality and loose equality. Strings are ordered by their code units;
objects and arrays are equal by what they hold, in whatever order an object lists it.
-/

namespace PageTemplates.Value

/-- How two numbers compare. Nothing compares to what is no number. -/
def compareNumbers (left right : Float) : Option Ordering :=
  if left < right then some .lt
  else if left == right then some .eq
  else if right < left then some .gt
  else none

def compareStrings (left right : String) : Ordering :=
  Text.compareUnits (Text.units left) (Text.units right)

/-- How two values compare: as strings if both are strings once made primitive, else as
numbers. -/
def order? (left right : Value) : Option Ordering :=
  match left.toPrimitive, right.toPrimitive with
  | .string leftText, .string rightText => some (compareStrings leftText rightText)
  | leftValue, rightValue => compareNumbers leftValue.toNumber rightValue.toNumber

/-! ## Strict equality -/

mutual

/-- Equality of the same kind and the same content. Numbers are equal as doubles, so
what is no number equals nothing. -/
def strictEquals : Value → Value → Bool
  | .undefined, .undefined => true
  | .null, .null => true
  | .boolean left, .boolean right => left == right
  | .number left, .number right => left == right
  | .string left, .string right => left == right
  | .array left, .array right => left.length == right.length && itemsEqual left right
  | .object left, .object right =>
      left.length == right.length && entriesWithin left right
  | _, _ => false

/-- Whether the items at the same places are equal, as far as both lists go. -/
def itemsEqual : List Value → List Value → Bool
  | left :: lefts, right :: rights => strictEquals left right && itemsEqual lefts rights
  | _, _ => true

/-- Whether every entry has an equal one with its key among the others. -/
def entriesWithin : List (String × Value) → List (String × Value) → Bool
  | [], _ => true
  | (key, value) :: rest, others =>
      others.any (fun other => other.1 == key && strictEquals value other.2) &&
        entriesWithin rest others

end

example : strictEquals (.object [("a", .null), ("b", .undefined)])
    (.object [("b", .undefined), ("a", .null)]) = true := by decide +kernel

/-! ## Loose equality -/

def isCompound : Value → Bool
  | .array _ | .object _ => true
  | _ => false

def isNumberOrString : Value → Bool
  | .number _ | .string _ => true
  | _ => false

/-- How many conversions a value may take before it is compared as it is. -/
def conversions : Value → Nat
  | .boolean _ | .array _ | .object _ => 1
  | _ => 0

theorem conversions_toPrimitive_lt {value : Value} (compound : value.isCompound) :
    value.toPrimitive.conversions < value.conversions := by
  cases value <;> simp_all [isCompound, toPrimitive, conversions]

/-- Equality after conversion: `undefined` and `null` equal each other alone, a boolean
counts as a number, a string beside a number as a number, and an array or object beside
a number or string as its text. -/
def looseEquals (left right : Value) : Bool :=
  if left.isNothing || right.isNothing then
    left.isNothing && right.isNothing
  else
    match left, right with
    | .boolean truth, other => looseEquals (.number (boolean truth).toNumber) other
    | other, .boolean truth => looseEquals (.number (boolean truth).toNumber) other
    | .number amount, .string content => amount == (string content).toNumber
    | .string content, .number amount => amount == (string content).toNumber
    | one, other =>
        if _ : one.isCompound ∧ other.isNumberOrString then
          looseEquals one.toPrimitive other
        else if _ : other.isCompound ∧ one.isNumberOrString then
          looseEquals other.toPrimitive one
        else
          strictEquals one other
termination_by left.conversions + right.conversions
decreasing_by
  · simp [conversions]
  · simp [conversions]
  · rename_i condition
    have := conversions_toPrimitive_lt condition.1
    omega
  · rename_i condition
    have := conversions_toPrimitive_lt condition.1
    omega

example : looseEquals (.boolean true) (.string "1") = true := by decide +kernel

example : looseEquals (.array [.number 1, .number 2]) (.string "1,2") = true := by
  decide +kernel

end PageTemplates.Value
