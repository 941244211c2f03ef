import PageTemplates.Value
import PageTemplates.Text.Units

/-! # Own properties

Reading a property of a value. Only what the value itself holds can be read, and the
names on the denylist never can: they lead to the internals of a host.
-/

namespace PageTemplates

/-- Names that can be neither read nor written in an expression. -/
def denylist : List String :=
  ["process", "require", "global", "globalThis", "Function", "eval", "window", "module",
   "exports", "this", "constructor", "__proto__", "prototype"]

def isDenied (name : String) : Bool :=
  denylist.contains name

inductive Nothing
  | undefined
  | null
  deriving Repr, DecidableEq

def Nothing.text : Nothing → String
  | .undefined => "undefined"
  | .null => "null"

inductive EvaluationError
  | propertyOfNothing (property : String) (base : Nothing)
  | searchedType (key : String) (found : TypeName)
  deriving Repr, DecidableEq

def EvaluationError.message : EvaluationError → String
  | .propertyOfNothing property base =>
      "cannot read property `" ++ property ++ "` of " ++ base.text
  | .searchedType key found =>
      "cannot use `in` to search for `" ++ key ++ "` in " ++ found.text

/-- The position that a property name stands for: decimal digits without a leading
zero, of a number that fits 64 bits. -/
def arrayIndex? (name : String) : Option Nat :=
  let digits := name.toList
  if digits.isEmpty || (1 < digits.length && digits.head? = some '0') then
    none
  else if !digits.all Char.isDigit then
    none
  else
    let index := Number.ofDigits 10 digits
    if index < 0x10000000000000000 then some index else none

example : arrayIndex? "10" = some 10 := by decide +kernel

example : arrayIndex? "01" = none := by decide +kernel

example : arrayIndex? "18446744073709551616" = none := by decide +kernel

@[simp]
theorem arrayIndex?_length : arrayIndex? "length" = none := by decide +kernel

namespace Value

def ofLength (length : Nat) : Value := .number (Float.ofNat length)

/-- A property of a string: its length in code units, or one unit as a string. -/
def stringMember (text property : String) : Value :=
  let units := Text.units text
  if property = "length" then
    ofLength units.length
  else
    match (arrayIndex? property).bind (units[·]?) with
    | some unit => .string (String.ofList (Text.ofUnits [unit]))
    | none => .undefined

/-- Read an own property. A denied name reads as `undefined`, also of `undefined` and
`null`, which refuse any other name. -/
def member (value : Value) (property : String) : Except EvaluationError Value :=
  if isDenied property then
    .ok .undefined
  else
    match value with
    | .undefined => .error (.propertyOfNothing property .undefined)
    | .null => .error (.propertyOfNothing property .null)
    | .object entries => .ok ((Dictionary.get? entries property).getD .undefined)
    | .array items =>
        if property = "length" then
          .ok (ofLength items.length)
        else
          .ok (((arrayIndex? property).bind (items[·]?)).getD .undefined)
    | .string text => .ok (stringMember text property)
    | .boolean _ | .number _ => .ok .undefined

/-- Whether an object or an array has an own property; no other value can be asked. -/
def hasOwn? (value : Value) (key : String) : Option Bool :=
  match value with
  | .object entries => some (!isDenied key && Dictionary.has entries key)
  | .array items =>
      some (key = "length" || (arrayIndex? key).any (· < items.length))
  | _ => none

end Value

end PageTemplates
