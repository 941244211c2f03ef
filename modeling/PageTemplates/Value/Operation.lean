import PageTemplates.Operator
import PageTemplates.Number.Word
import PageTemplates.Value.Comparison
import PageTemplates.Value.Member

/-! # Operators on values -/

namespace PageTemplates

/-- A power. It is no number where the exponent is none, nor for a base of one or minus
one with an infinite exponent. -/
def Number.power (base exponent : Float) : Float :=
  if exponent.isNaN || (base.abs == 1 && exponent.isInf) then notANumber
  else Float.pow base exponent

namespace Value

/-- A sum: of texts if either operand is a string once made primitive, else of
numbers. -/
def add (left right : Value) : Value :=
  match left.toPrimitive, right.toPrimitive with
  | .string leftText, other => .string (leftText ++ other.text)
  | other, .string rightText => .string (other.text ++ rightText)
  | leftValue, rightValue => .number (leftValue.toNumber + rightValue.toNumber)

end Value

def UnaryOperator.apply (operator : UnaryOperator) (operand : Value) : Value :=
  match operator with
  | .not => .boolean (!operand.isTrue)
  | .negate => .number (-operand.toNumber)
  | .plus => .number operand.toNumber
  | .invert => .number (Number.invertWord operand.toNumber)
  | .typeOf => .string operand.typeName.text
  | .void => .undefined

/-- The value of a binary operator. Only a search in what is neither object nor array
has none. -/
def BinaryOperator.apply (operator : BinaryOperator) (left right : Value) :
    Except EvaluationError Value :=
  let numeric (operation : Float → Float → Float) : Except EvaluationError Value :=
    .ok (.number (operation left.toNumber right.toNumber))
  let ordered (accepts : Ordering → Bool) : Except EvaluationError Value :=
    .ok (.boolean ((Value.order? left right).any accepts))
  match operator with
  | .add => .ok (Value.add left right)
  | .subtract => numeric (· - ·)
  | .multiply => numeric (· * ·)
  | .divide => numeric (· / ·)
  | .remainder => numeric Number.remainder
  | .power => numeric Number.power
  | .shiftLeft => numeric Number.WordOperator.shiftLeft.apply
  | .shiftRight => numeric Number.WordOperator.shiftRight.apply
  | .shiftRightZero => numeric Number.WordOperator.shiftRightZero.apply
  | .bitAnd => numeric Number.WordOperator.both.apply
  | .bitOr => numeric Number.WordOperator.either.apply
  | .bitXor => numeric Number.WordOperator.exactlyOne.apply
  | .less => ordered (· == .lt)
  | .greater => ordered (· == .gt)
  | .lessOrEqual => ordered (· != .gt)
  | .greaterOrEqual => ordered (· != .lt)
  | .looseEqual => .ok (.boolean (Value.looseEquals left right))
  | .looseUnequal => .ok (.boolean (!Value.looseEquals left right))
  | .strictEqual => .ok (.boolean (Value.strictEquals left right))
  | .strictUnequal => .ok (.boolean (!Value.strictEquals left right))
  | .within =>
      match right.hasOwn? left.text with
      | some found => .ok (.boolean found)
      | none => .error (.searchedType left.text right.typeName)

/-- Whether the left operand decides, so that the right one is not evaluated. -/
def LogicalOperator.stopsAt (operator : LogicalOperator) (left : Value) : Bool :=
  match operator with
  | .and => !left.isTrue
  | .or => left.isTrue
  | .coalesce => !left.isNothing

end PageTemplates
