import PageTemplates.Json
import PageTemplates.Number.Reading
import PageTemplates.Number.Style

/-! # Values of expressions

What an expression evaluates to: JSON data, and besides it `undefined`. Numbers are
doubles. Every value has a text, a number and a truth.
-/

namespace PageTemplates

inductive Value
  | undefined
  | null
  | boolean (value : Bool)
  | number (value : Float)
  | string (value : String)
  | array (items : List Value)
  | object (entries : List (String × Value))
  deriving Repr, Inhabited

inductive TypeName
  | undefined
  | boolean
  | number
  | string
  | object
  deriving Repr, DecidableEq

def TypeName.text : TypeName → String
  | .undefined => "undefined"
  | .boolean => "boolean"
  | .number => "number"
  | .string => "string"
  | .object => "object"

namespace Value

/-! ## From JSON -/

mutual

def ofJson : Json → Value
  | .null => .null
  | .boolean value => .boolean value
  | .number value => .number value.toFloat
  | .string value => .string value
  | .array items => .array (ofItems items)
  | .object entries => .object (ofEntries entries)

def ofItems : List Json → List Value
  | [] => []
  | item :: rest => ofJson item :: ofItems rest

def ofEntries : List (String × Json) → List (String × Value)
  | [] => []
  | (key, value) :: rest => (key, ofJson value) :: ofEntries rest

end

/-! ## Conversions -/

def isNothing : Value → Bool
  | .undefined | .null => true
  | _ => false

def isTrue : Value → Bool
  | .undefined | .null => false
  | .boolean value => value
  | .number value => !(value == 0) && !value.isNaN
  | .string value => !value.isEmpty
  | .array _ | .object _ => true

/-- The name of the value's kind. Null and arrays count as objects. -/
def typeName : Value → TypeName
  | .undefined => .undefined
  | .boolean _ => .boolean
  | .number _ => .number
  | .string _ => .string
  | .null | .array _ | .object _ => .object

mutual

/-- The value as a string. The items of an array are joined by commas. -/
def text : Value → String
  | .undefined => "undefined"
  | .null => "null"
  | .boolean true => "true"
  | .boolean false => "false"
  | .number value => Number.text value
  | .string value => value
  | .array items => ",".intercalate (itemTexts items)
  | .object _ => "[object Object]"

/-- The strings of items. Where an item is `undefined` or `null` the string is empty. -/
def itemTexts : List Value → List String
  | [] => []
  | item :: rest => (if item.isNothing then "" else item.text) :: itemTexts rest

end

/-- What a page shows of the value: nothing of `undefined` and `null`. -/
def shown? (value : Value) : Option String :=
  if value.isNothing then none else some value.text

def toNumber : Value → Float
  | .undefined | .object _ => Number.notANumber
  | .null => 0
  | .boolean value => if value then 1 else 0
  | .number value => value
  | .string value => Number.ofText value
  | .array items => Number.ofText (array items).text

/-- Arrays and objects as strings, and any other value as it is. -/
def toPrimitive (value : Value) : Value :=
  match value with
  | .array _ | .object _ => .string value.text
  | other => other

example : (array [.number 1, .null, .array [.string "a", .undefined]]).text = "1,,a," := by
  decide +kernel

end Value

end PageTemplates
