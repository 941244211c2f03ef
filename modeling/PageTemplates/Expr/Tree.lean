import PageTemplates.Operator
import PageTemplates.Value.Member

/-! # Expression trees

There is no node for a call, an assignment or a computed property: a tree cannot say
such things, so nothing has to refuse them later. What is checked on a tree are its
names alone.
-/

namespace PageTemplates

inductive Literal
  | null
  | boolean (value : Bool)
  | number (value : Float)
  | string (value : String)
  deriving Repr, DecidableEq

inductive Expr
  | literal (value : Literal)
  | identifier (name : String)
  | member (base : Expr) (property : String)
  | unary (operator : UnaryOperator) (operand : Expr)
  | binary (operator : BinaryOperator) (left right : Expr)
  | logical (operator : LogicalOperator) (left right : Expr)
  | conditional (test consequent alternate : Expr)
  /-- An absent element is a hole. -/
  | array (elements : List (Option Expr))
  | object (entries : List (String × Expr))
  deriving Repr, Inhabited

namespace Expr

mutual

/-- Whether no name in the tree is denied: no variable, no property and no key of an
object, in whatever branch it stands. -/
def isSafe : Expr → Bool
  | .literal _ => true
  | .identifier name => !isDenied name
  | .member base property => !isDenied property && base.isSafe
  | .unary _ operand => operand.isSafe
  | .binary _ left right => left.isSafe && right.isSafe
  | .logical _ left right => left.isSafe && right.isSafe
  | .conditional test consequent alternate =>
      test.isSafe && consequent.isSafe && alternate.isSafe
  | .array elements => elementsSafe elements
  | .object entries => entriesSafe entries

def elementsSafe : List (Option Expr) → Bool
  | [] => true
  | none :: rest => elementsSafe rest
  | some element :: rest => element.isSafe && elementsSafe rest

def entriesSafe : List (String × Expr) → Bool
  | [] => true
  | (key, value) :: rest => !isDenied key && value.isSafe && entriesSafe rest

end

/-- A denied name in the branch that is not taken refuses the whole tree. -/
example : isSafe (.conditional (.literal (.boolean false))
    (.array [some (.identifier "process")]) (.literal .null)) = false := by decide

end Expr

/-- A tree without denied names. Only such trees are evaluated. -/
structure SafeExpr where
  tree : Expr
  safe : tree.isSafe = true

def SafeExpr.ofTree? (tree : Expr) : Option SafeExpr :=
  if safe : tree.isSafe = true then some ⟨tree, safe⟩ else none

end PageTemplates
