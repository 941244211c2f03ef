import PageTemplates.Context
import PageTemplates.Expr.Tree
import PageTemplates.Value.Operation

/-! # Evaluation

The value of an expression in a context. Chains of properties stay on the stored data
until their last step; only then is it made a value.
-/

namespace PageTemplates

/-- What an expression comes to: data that the context stores, or a value made along
the way. -/
inductive Held
  | stored (json : Json)
  | made (value : Value)

namespace Held

def value : Held → Value
  | .stored json => Value.ofJson json
  | .made value => value

/-- Read an own property of stored data. What an object or array stores stays stored;
a length and the properties of a string are made. -/
def ofJsonMember (json : Json) (property : String) : Except EvaluationError Held :=
  if isDenied property then
    .ok (.made .undefined)
  else
    match json with
    | .object entries =>
        match Dictionary.get? entries property with
        | some found => .ok (.stored found)
        | none => .ok (.made .undefined)
    | .array items =>
        if property = "length" then
          .ok (.made (Value.ofLength items.length))
        else
          match (arrayIndex? property).bind (items[·]?) with
          | some found => .ok (.stored found)
          | none => .ok (.made .undefined)
    | scalar => ((Value.ofJson scalar).member property).map .made

def member : Held → String → Except EvaluationError Held
  | .stored json, property => ofJsonMember json property
  | .made value, property => (value.member property).map .made

end Held

def Literal.value : Literal → Value
  | .null => .null
  | .boolean value => .boolean value
  | .number value => .number value
  | .string value => .string value

/-- What a variable stands for. A name that is missing or denied is `undefined`. -/
def Context.variable (context : Context) (name : String) : Held :=
  match context.get? name with
  | some json => if isDenied name then .made .undefined else .stored json
  | none => .made .undefined

/-- The object of evaluated entries. A repeated key keeps its first place and takes its
last value. -/
def Value.ofEvaluated (entries : List (String × Value)) : Value :=
  .object (entries.foldl (fun object entry => Dictionary.put entry.1 entry.2 object) [])

namespace Expr

mutual

/-- Evaluate a tree. A variable and the properties after it stay stored data; every other
expression makes a value. Operands are evaluated from left to right, and the first error
ends the evaluation. -/
def reduce (context : Context) : Expr → Except EvaluationError Held
  | .literal constant => .ok (.made constant.value)
  | .identifier name => .ok (context.variable name)
  | .member base property => do
      let held ← reduce context base
      held.member property
  | .unary operator operand => do
      let held ← reduce context operand
      return .made (operator.apply held.value)
  | .binary operator left right => do
      let leftHeld ← reduce context left
      let rightHeld ← reduce context right
      let value ← operator.apply leftHeld.value rightHeld.value
      return .made value
  | .logical operator left right => do
      let held ← reduce context left
      if operator.stopsAt held.value then
        return .made held.value
      else
        (reduce context right).map fun other => .made other.value
  | .conditional test consequent alternate => do
      let held ← reduce context test
      if held.value.isTrue then
        (reduce context consequent).map fun chosen => .made chosen.value
      else
        (reduce context alternate).map fun chosen => .made chosen.value
  | .array elements => do
      let items ← reduceElements context elements
      return .made (.array items)
  | .object entries => do
      let values ← reduceEntries context entries
      return .made (Value.ofEvaluated values)

def reduceElements (context : Context) :
    List (Option Expr) → Except EvaluationError (List Value)
  | [] => .ok []
  | none :: rest => do
      let items ← reduceElements context rest
      return .undefined :: items
  | some element :: rest => do
      let held ← reduce context element
      let items ← reduceElements context rest
      return held.value :: items

def reduceEntries (context : Context) :
    List (String × Expr) → Except EvaluationError (List (String × Value))
  | [] => .ok []
  | (key, value) :: rest => do
      let held ← reduce context value
      let entries ← reduceEntries context rest
      return (key, held.value) :: entries

end

def evaluateTree (context : Context) (tree : Expr) : Except EvaluationError Value :=
  (tree.reduce context).map Held.value

end Expr

def SafeExpr.evaluate (context : Context) (expression : SafeExpr) :
    Except EvaluationError Value :=
  expression.tree.evaluateTree context

end PageTemplates
