/-! # Operators -/

namespace PageTemplates

inductive UnaryOperator
  | not
  | negate
  | plus
  | invert
  | typeOf
  | void
  deriving Repr, DecidableEq

inductive BinaryOperator
  | power
  | multiply
  | divide
  | remainder
  | add
  | subtract
  | shiftLeft
  | shiftRight
  | shiftRightZero
  | less
  | greater
  | lessOrEqual
  | greaterOrEqual
  | within
  | looseEqual
  | looseUnequal
  | strictEqual
  | strictUnequal
  | bitAnd
  | bitXor
  | bitOr
  deriving Repr, DecidableEq

/-- The operators that may leave their right operand unevaluated. -/
inductive LogicalOperator
  | and
  | or
  | coalesce
  deriving Repr, DecidableEq

def UnaryOperator.symbol : UnaryOperator → String
  | .not => "!"
  | .negate => "-"
  | .plus => "+"
  | .invert => "~"
  | .typeOf => "typeof"
  | .void => "void"

def BinaryOperator.symbol : BinaryOperator → String
  | .power => "**"
  | .multiply => "*"
  | .divide => "/"
  | .remainder => "%"
  | .add => "+"
  | .subtract => "-"
  | .shiftLeft => "<<"
  | .shiftRight => ">>"
  | .shiftRightZero => ">>>"
  | .less => "<"
  | .greater => ">"
  | .lessOrEqual => "<="
  | .greaterOrEqual => ">="
  | .within => "in"
  | .looseEqual => "=="
  | .looseUnequal => "!="
  | .strictEqual => "==="
  | .strictUnequal => "!=="
  | .bitAnd => "&"
  | .bitXor => "^"
  | .bitOr => "|"

def LogicalOperator.symbol : LogicalOperator → String
  | .and => "&&"
  | .or => "||"
  | .coalesce => "??"

def UnaryOperator.all : List UnaryOperator :=
  [.not, .negate, .plus, .invert, .typeOf, .void]

def BinaryOperator.all : List BinaryOperator :=
  [.power, .multiply, .divide, .remainder, .add, .subtract, .shiftLeft, .shiftRight,
   .shiftRightZero, .less, .greater, .lessOrEqual, .greaterOrEqual, .within, .looseEqual,
   .looseUnequal, .strictEqual, .strictUnequal, .bitAnd, .bitXor, .bitOr]

def LogicalOperator.all : List LogicalOperator :=
  [.and, .or, .coalesce]

def UnaryOperator.ofSymbol? (symbol : String) : Option UnaryOperator :=
  all.find? (·.symbol = symbol)

def BinaryOperator.ofSymbol? (symbol : String) : Option BinaryOperator :=
  all.find? (·.symbol = symbol)

def LogicalOperator.ofSymbol? (symbol : String) : Option LogicalOperator :=
  all.find? (·.symbol = symbol)

example : BinaryOperator.ofSymbol? ">>>" = some .shiftRightZero := by decide

end PageTemplates
