import PageTemplates.Proofs.Evaluation.Stored

/-! # Evaluation without stored data

The evaluator keeps a chain of properties on the data that the context stores. The plain
evaluator makes a value of every variable at once and reads each property from a value.
Both come to the same value or to the same error.
-/

namespace PageTemplates

/-- The value of a variable, `undefined` where its name is missing or denied. -/
def Context.plainVariable (context : Context) (name : String) : Value :=
  if isDenied name then
    .undefined
  else
    match context.get? name with
    | some json => Value.ofJson json
    | none => .undefined

@[simp]
theorem Context.value_variable (context : Context) (name : String) :
    (context.variable name).value = context.plainVariable name := by
  unfold Context.variable plainVariable
  cases context.get? name with
  | none => simp [Held.value]
  | some json => cases isDenied name <;> rfl

namespace Expr

mutual

/-- The value of a tree, each property read from a value. -/
def plain (context : Context) : Expr → Except EvaluationError Value
  | .literal constant => .ok constant.value
  | .identifier name => .ok (context.plainVariable name)
  | .member base property => do
      let value ← plain context base
      value.member property
  | .unary operator operand => do
      let value ← plain context operand
      return operator.apply value
  | .binary operator left right => do
      let leftValue ← plain context left
      let rightValue ← plain context right
      operator.apply leftValue rightValue
  | .logical operator left right => do
      let value ← plain context left
      if operator.stopsAt value then
        return value
      else
        plain context right
  | .conditional test consequent alternate => do
      let value ← plain context test
      if value.isTrue then
        plain context consequent
      else
        plain context alternate
  | .array elements => do
      let items ← plainElements context elements
      return .array items
  | .object entries => do
      let values ← plainEntries context entries
      return Value.ofEvaluated values

def plainElements (context : Context) :
    List (Option Expr) → Except EvaluationError (List Value)
  | [] => .ok []
  | none :: rest => do
      let items ← plainElements context rest
      return .undefined :: items
  | some element :: rest => do
      let value ← plain context element
      let items ← plainElements context rest
      return value :: items

def plainEntries (context : Context) :
    List (String × Expr) → Except EvaluationError (List (String × Value))
  | [] => .ok []
  | (key, tree) :: rest => do
      let value ← plain context tree
      let entries ← plainEntries context rest
      return (key, value) :: entries

end

theorem map_value_map_made (result : Except EvaluationError Held) :
    (result.map fun held => Held.made held.value).map Held.value =
      result.map Held.value := by
  cases result <;> rfl

/-! ## Agreement

By recursion on the tree. In each case the parts are replaced by what they come to
plainly; what is left is that the value of the whole is made from the values of the
parts. Only a property needs more: its base may be stored. -/

mutual

theorem map_value_reduce (context : Context) :
    (tree : Expr) → (tree.reduce context).map Held.value = tree.plain context
  | .literal _ => rfl
  | .identifier name => by
      simp [reduce, plain]
  | .member base property => by
      have equal := map_value_reduce context base
      simp only [reduce, plain, ← equal]
      cases reduce context base with
      | error problem => rfl
      | ok held => exact held.value_member property
  | .unary operator operand => by
      have equal := map_value_reduce context operand
      simp only [reduce, plain, ← equal]
      cases reduce context operand <;> rfl
  | .binary operator left right => by
      have leftEqual := map_value_reduce context left
      have rightEqual := map_value_reduce context right
      simp only [reduce, plain, ← leftEqual, ← rightEqual]
      cases reduce context left with
      | error problem => rfl
      | ok leftHeld =>
          cases reduce context right with
          | error problem => rfl
          | ok rightHeld =>
              change Except.map Held.value (operator.apply leftHeld.value
                rightHeld.value >>= fun value => pure (.made value)) =
                  operator.apply leftHeld.value rightHeld.value
              cases operator.apply leftHeld.value rightHeld.value <;> rfl
  | .logical operator left right => by
      have leftEqual := map_value_reduce context left
      have rightEqual := map_value_reduce context right
      simp only [reduce, plain, ← leftEqual, ← rightEqual]
      cases reduce context left with
      | error problem => rfl
      | ok held =>
          simp only [map_ok, bind_ok]
          cases operator.stopsAt held.value with
          | true => rfl
          | false => exact map_value_map_made (reduce context right)
  | .conditional test consequent alternate => by
      have testEqual := map_value_reduce context test
      have consequentEqual := map_value_reduce context consequent
      have alternateEqual := map_value_reduce context alternate
      simp only [reduce, plain, ← testEqual, ← consequentEqual, ← alternateEqual]
      cases reduce context test with
      | error problem => rfl
      | ok held =>
          simp only [map_ok, bind_ok]
          cases held.value.isTrue with
          | true => exact map_value_map_made (reduce context consequent)
          | false => exact map_value_map_made (reduce context alternate)
  | .array elements => by
      simp only [reduce, plain, reduceElements_eq_plain context elements]
      cases plainElements context elements <;> rfl
  | .object entries => by
      simp only [reduce, plain, reduceEntries_eq_plain context entries]
      cases plainEntries context entries <;> rfl

theorem reduceElements_eq_plain (context : Context) :
    (elements : List (Option Expr)) →
      reduceElements context elements = plainElements context elements
  | [] => rfl
  | none :: rest => by
      simp only [reduceElements, plainElements, reduceElements_eq_plain context rest]
  | some element :: rest => by
      have equal := map_value_reduce context element
      simp only [reduceElements, plainElements, ← equal,
        reduceElements_eq_plain context rest]
      cases reduce context element <;> rfl

theorem reduceEntries_eq_plain (context : Context) :
    (entries : List (String × Expr)) →
      reduceEntries context entries = plainEntries context entries
  | [] => rfl
  | (key, tree) :: rest => by
      have equal := map_value_reduce context tree
      simp only [reduceEntries, plainEntries, ← equal,
        reduceEntries_eq_plain context rest]
      cases reduce context tree <;> rfl

end

theorem evaluateTree_eq_plain (context : Context) (tree : Expr) :
    tree.evaluateTree context = tree.plain context :=
  map_value_reduce context tree

end Expr

/-- Keeping chains of properties on stored data changes no value and no error. -/
theorem SafeExpr.evaluate_eq_plain (context : Context) (expression : SafeExpr) :
    expression.evaluate context = expression.tree.plain context :=
  expression.tree.evaluateTree_eq_plain context

end PageTemplates
