import PageTemplates.Context
import PageTemplates.Number.Style

/-! # YAML values

Data that is written in YAML becomes JSON data. Tags are dropped. A key of a mapping
that is a number or a boolean becomes its text, and an entry with any other key that is
no string is dropped.
-/

namespace PageTemplates

/-- A number of 64 bits: a whole one, without a sign or with one, or a double. -/
inductive YamlNumber
  | unsigned (value : UInt64)
  | signed (value : Int64)
  | double (value : Float)
  deriving Repr

namespace YamlNumber

/-- A whole number, which has to fit into 64 bits. Only a negative one is signed. -/
def ofInt (value : Int) : YamlNumber :=
  if 0 ≤ value then unsigned (UInt64.ofNat value.toNat) else signed (Int64.ofInt value)

/-- The value as a signed whole number of 64 bits, if it is one. -/
def signed? : YamlNumber → Option Int
  | unsigned value => if value.toNat < 0x8000000000000000 then some value.toNat else none
  | signed value => some value.toInt
  | double _ => none

/-- The value as a whole number of 64 bits without a sign. -/
def unsigned? : YamlNumber → Option Int
  | unsigned value => some value.toNat
  | signed _ | double _ => none

def toFloat : YamlNumber → Float
  | unsigned value => Float.ofNat value.toNat
  | signed value => Float.ofInt value.toInt
  | double value => value

def text : YamlNumber → String
  | unsigned value => toString value.toNat
  | signed value => toString value.toInt
  | double value => Number.Style.yamlKey.write value

/-- The number as JSON: as a whole number if it can be had as one, and else as a double. -/
def toJson (number : YamlNumber) : Json :=
  match number.signed? with
  | some value => .number (.whole value)
  | none =>
      match number.unsigned? with
      | some value => .number (.whole value)
      | none => Json.ofFloat number.toFloat

theorem isOrdered_toJson (number : YamlNumber) : number.toJson.isOrdered = true := by
  unfold toJson
  split
  · rfl
  · split
    · rfl
    · exact Json.isOrdered_ofFloat number.toFloat

end YamlNumber

inductive Yaml
  | null
  | boolean (value : Bool)
  | number (value : YamlNumber)
  | string (value : String)
  | sequence (items : List Yaml)
  /-- Entries in the order in which they are written. -/
  | mapping (entries : List (Yaml × Yaml))
  | tagged (tag : String) (value : Yaml)
  deriving Repr, Inhabited

namespace Yaml

def key? : Yaml → Option String
  | boolean true => some "true"
  | boolean false => some "false"
  | number value => some value.text
  | string value => some value
  | _ => none

mutual

/-- The data as JSON. Of entries whose keys come to the same text the last counts. -/
def toJson : Yaml → Json
  | null => .null
  | boolean value => .boolean value
  | number value => value.toJson
  | string value => .string value
  | sequence items => .array (itemsToJson items)
  | mapping entries => Json.ofEntries (entriesToJson entries)
  | tagged _ value => value.toJson

def itemsToJson : List Yaml → List Json
  | [] => []
  | item :: rest => item.toJson :: itemsToJson rest

def entriesToJson : List (Yaml × Yaml) → List (String × Json)
  | [] => []
  | (key, value) :: rest =>
      match key.key? with
      | some key => (key, value.toJson) :: entriesToJson rest
      | none => entriesToJson rest

end

mutual

theorem isOrdered_toJson : (yaml : Yaml) → yaml.toJson.isOrdered = true
  | null | boolean _ | string _ => rfl
  | number value => value.isOrdered_toJson
  | sequence items => Json.isOrdered_array.mpr (isOrdered_itemsToJson items)
  | mapping entries => Json.isOrdered_ofEntries (isOrdered_entriesToJson entries)
  | tagged _ value => isOrdered_toJson value

theorem isOrdered_itemsToJson :
    (items : List Yaml) → ∀ item ∈ itemsToJson items, item.isOrdered = true
  | [] => nofun
  | item :: rest =>
      List.forall_mem_cons.mpr ⟨isOrdered_toJson item, isOrdered_itemsToJson rest⟩

theorem isOrdered_entriesToJson :
    (entries : List (Yaml × Yaml)) → ∀ entry ∈ entriesToJson entries, entry.2.isOrdered = true
  | [] => nofun
  | (key, value) :: rest => by
      rw [entriesToJson]
      split
      next => exact List.forall_mem_cons.mpr ⟨isOrdered_toJson value, isOrdered_entriesToJson rest⟩
      next => exact isOrdered_entriesToJson rest

end

def toData (yaml : Yaml) : Data := ⟨yaml.toJson, yaml.isOrdered_toJson⟩

end Yaml

def Context.ofYaml (yaml : Yaml) : Context :=
  Context.ofData yaml.toData

end PageTemplates
