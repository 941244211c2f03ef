import PageTemplates.Proofs.Dictionary
import PageTemplates.Yaml

/-! # What YAML data becomes

Converting YAML data to JSON loses tags, doubles that are not finite, and the entries of a
mapping whose key has no text or is written again later. All else is kept: data that is JSON
already comes back from its image in YAML.
-/

namespace PageTemplates

/-! ## Proper data -/

/-- A whole number of 64 bits, with a sign or without one, or a double that is finite. -/
def JsonNumber.Proper : JsonNumber → Prop
  | whole value => -0x8000000000000000 ≤ value ∧ value ≤ 0xFFFFFFFFFFFFFFFF
  | double value => value.isFinite = true

namespace Json

/-- Data as JSON can have it: at every depth the numbers are proper and the keys of an object
increase. -/
inductive Proper : Json → Prop
  | null : Proper .null
  | boolean (value : Bool) : Proper (.boolean value)
  | number {value : JsonNumber} (proper : value.Proper) : Proper (.number value)
  | string (value : String) : Proper (.string value)
  | array {items : List Json} (all : ∀ item ∈ items, Proper item) : Proper (.array items)
  | object {entries : List (String × Json)} (increases : Dictionary.Increases entries)
      (all : ∀ entry ∈ entries, Proper entry.2) : Proper (.object entries)

theorem ofFloat_eq (value : Float) :
    ofFloat value = if value.isFinite then .number (.double value) else .null := by
  unfold ofFloat Number.Exact.ofFloat Float.isFinite Float.Model.isFinite
  cases value.toModel.unpack <;> rfl

theorem isFinite_eq_false {value : Float} (extreme : value.isNaN = true ∨ value.isInf = true) :
    value.isFinite = false := by
  change value.toModel.unpack.isNaN = true ∨ value.toModel.unpack.isInf = true at extreme
  change value.toModel.unpack.isFinite = false
  generalize value.toModel.unpack = unpacked at extreme ⊢
  cases unpacked with
  | notANumber | infinity => rfl
  | zero | finite => rcases extreme with extreme | extreme <;> cases extreme

theorem proper_ofFloat (value : Float) : (ofFloat value).Proper := by
  rw [ofFloat_eq]
  split
  next finite => exact .number finite
  next => exact .null

theorem proper_ofEntries {entries : List (String × Json)}
    (all : ∀ entry ∈ entries, entry.2.Proper) : (ofEntries entries).Proper :=
  .object (Dictionary.increases_sorted entries)
    fun entry member => all entry (Dictionary.mem_of_mem_sorted member)

end Json

/-! ## Numbers -/

namespace YamlNumber

def ofJson : JsonNumber → YamlNumber
  | .whole value => ofInt value
  | .double value => double value

@[simp]
theorem toJson_unsigned (value : UInt64) :
    (unsigned value).toJson = .number (.whole value.toNat) := by
  simp only [toJson, signed?]
  by_cases small : value.toNat < 0x8000000000000000
  · rw [if_pos small]
  · rw [if_neg small, unsigned?]

@[simp]
theorem toJson_signed (value : Int64) : (signed value).toJson = .number (.whole value.toInt) :=
  rfl

@[simp]
theorem toJson_double (value : Float) : (double value).toJson = Json.ofFloat value :=
  rfl

theorem proper_toJson (number : YamlNumber) : number.toJson.Proper := by
  cases number with
  | unsigned value =>
      rw [toJson_unsigned]
      have bound := value.toNat_lt
      exact .number ⟨by omega, by omega⟩
  | signed value =>
      have least := value.le_toInt
      have greatest := value.toInt_lt
      exact .number ⟨by omega, by omega⟩
  | double value => exact Json.proper_ofFloat value

theorem toJson_ofJson {number : JsonNumber} (proper : number.Proper) :
    (ofJson number).toJson = .number number := by
  cases number with
  | whole value =>
      rcases proper with ⟨least, greatest⟩
      rw [ofJson, ofInt]
      split
      next nonnegative =>
        rw [toJson_unsigned, UInt64.toNat_ofNat', Nat.mod_eq_of_lt (by omega),
          Int.toNat_of_nonneg nonnegative]
      next => rw [toJson_signed, Int64.toInt_ofInt_of_le least (by omega)]
  | double value =>
      have finite : value.isFinite = true := proper
      rw [ofJson, toJson_double, Json.ofFloat_eq, if_pos finite]

end YamlNumber

namespace Yaml

theorem itemsToJson_eq_map (items : List Yaml) : itemsToJson items = items.map toJson := by
  induction items with
  | nil => rfl
  | cons item rest induction => rw [itemsToJson, induction, List.map_cons]

/-! ## Keys -/

/-- A key has a text: a string is its own, and a number or a boolean is written out. -/
inductive KeyText : Yaml → String → Prop
  | true : KeyText (.boolean true) "true"
  | false : KeyText (.boolean false) "false"
  | number (value : YamlNumber) : KeyText (.number value) value.text
  | string (text : String) : KeyText (.string text) text

theorem key?_eq_some_iff {key : Yaml} {text : String} :
    key.key? = some text ↔ KeyText key text := by
  constructor
  · intro found
    unfold key? at found
    split at found
    case h_1 => exact Option.some.inj found ▸ .true
    case h_2 => exact Option.some.inj found ▸ .false
    case h_3 value => exact Option.some.inj found ▸ .number value
    case h_4 value => exact Option.some.inj found ▸ .string value
    case h_5 => cases found
  · rintro (_ | _ | _ | _) <;> rfl

theorem mem_keys_entriesToJson {entries : List (Yaml × Yaml)} {text : String} :
    text ∈ Dictionary.keys (entriesToJson entries) ↔
      ∃ entry ∈ entries, KeyText entry.1 text := by
  induction entries with
  | nil => simp [entriesToJson]
  | cons entry rest induction =>
      simp only [List.mem_cons, exists_eq_or_imp]
      rw [entriesToJson, ← induction, ← key?_eq_some_iff]
      cases entry.1.key? with
      | none => simp
      | some found => simp [eq_comm]

theorem entriesToJson_append (entries others : List (Yaml × Yaml)) :
    entriesToJson (entries ++ others) = entriesToJson entries ++ entriesToJson others := by
  induction entries with
  | nil => rfl
  | cons entry rest induction =>
      rw [List.cons_append, entriesToJson, entriesToJson, induction]
      split <;> rfl

theorem get?_of_isLast {entries : List (Yaml × Yaml)} {text : String} {entry : Yaml × Yaml}
    (last : IsLast (fun entry => KeyText entry.1 text) entries entry) :
    Dictionary.get? (Dictionary.sorted (entriesToJson entries)) text =
      some entry.2.toJson := by
  rcases last with ⟨before, after, rfl, named, latest⟩
  have absent : text ∉ Dictionary.keys (entriesToJson after) := by
    rw [mem_keys_entriesToJson]
    rintro ⟨entry, member, again⟩
    exact latest entry member again
  have unfound : Dictionary.get? (entriesToJson after).reverse text = none := by
    rw [Option.eq_none_iff_forall_ne_some]
    intro found stored
    refine absent ?_
    have member := Dictionary.mem_keys.mpr ⟨found, stored⟩
    simpa [Dictionary.keys] using member
  rw [Dictionary.get?_sorted, entriesToJson_append, entriesToJson, key?_eq_some_iff.mpr named,
    List.reverse_append, List.reverse_cons, List.append_assoc, Dictionary.get?,
    List.lookup_append, ← Dictionary.get?, unfound, Option.none_or, List.singleton_append,
    ← Dictionary.get?, Dictionary.get?_cons]
  simp

/-! ## Tags -/

/-- No value is tagged, at any depth. Keys are no values here. -/
inductive Untagged : Yaml → Prop
  | null : Untagged .null
  | boolean (value : Bool) : Untagged (.boolean value)
  | number (value : YamlNumber) : Untagged (.number value)
  | string (value : String) : Untagged (.string value)
  | sequence {items : List Yaml} (all : ∀ item ∈ items, Untagged item) :
      Untagged (.sequence items)
  | mapping {entries : List (Yaml × Yaml)} (all : ∀ entry ∈ entries, Untagged entry.2) :
      Untagged (.mapping entries)

mutual

/-- The value without its tags, at every depth. Keys keep theirs: without its tag a key that
has no text might have one. -/
def withoutTags : Yaml → Yaml
  | null => null
  | boolean value => boolean value
  | number value => number value
  | string value => string value
  | sequence items => sequence (itemsWithoutTags items)
  | mapping entries => mapping (entriesWithoutTags entries)
  | tagged _ value => value.withoutTags

def itemsWithoutTags : List Yaml → List Yaml
  | [] => []
  | item :: rest => item.withoutTags :: itemsWithoutTags rest

def entriesWithoutTags : List (Yaml × Yaml) → List (Yaml × Yaml)
  | [] => []
  | (key, value) :: rest => (key, value.withoutTags) :: entriesWithoutTags rest

end

mutual

theorem untagged_withoutTags : (yaml : Yaml) → yaml.withoutTags.Untagged
  | null => .null
  | boolean value => .boolean value
  | number value => .number value
  | string value => .string value
  | sequence items => .sequence (untagged_itemsWithoutTags items)
  | mapping entries => .mapping (untagged_entriesWithoutTags entries)
  | tagged _ value => untagged_withoutTags value

theorem untagged_itemsWithoutTags :
    (items : List Yaml) → ∀ item ∈ itemsWithoutTags items, item.Untagged
  | [] => nofun
  | item :: rest => List.forall_mem_cons.mpr
      ⟨untagged_withoutTags item, untagged_itemsWithoutTags rest⟩

theorem untagged_entriesWithoutTags :
    (entries : List (Yaml × Yaml)) → ∀ entry ∈ entriesWithoutTags entries, entry.2.Untagged
  | [] => nofun
  | (_, value) :: rest => List.forall_mem_cons.mpr
      ⟨untagged_withoutTags value, untagged_entriesWithoutTags rest⟩

end

mutual

theorem toJson_withoutTags : (yaml : Yaml) → yaml.withoutTags.toJson = yaml.toJson
  | null | boolean _ | number _ | string _ => rfl
  | sequence items => by
      rw [withoutTags, toJson, toJson, itemsToJson_withoutTags items]
  | mapping entries => by
      rw [withoutTags, toJson, toJson, entriesToJson_withoutTags entries]
  | tagged _ value => by
      rw [withoutTags, toJson, toJson_withoutTags value]

theorem itemsToJson_withoutTags :
    (items : List Yaml) → itemsToJson (itemsWithoutTags items) = itemsToJson items
  | [] => rfl
  | item :: rest => by
      rw [itemsWithoutTags, itemsToJson, itemsToJson, toJson_withoutTags item,
        itemsToJson_withoutTags rest]

theorem entriesToJson_withoutTags :
    (entries : List (Yaml × Yaml)) →
      entriesToJson (entriesWithoutTags entries) = entriesToJson entries
  | [] => rfl
  | (key, value) :: rest => by
      rw [entriesWithoutTags, entriesToJson, entriesToJson, toJson_withoutTags value,
        entriesToJson_withoutTags rest]

end

/-! ## The image of JSON -/

mutual

/-- Data in JSON as YAML has it: a whole number as such, and the keys as strings in their
order. -/
def ofJson : Json → Yaml
  | .null => .null
  | .boolean value => .boolean value
  | .number value => .number (.ofJson value)
  | .string value => .string value
  | .array items => .sequence (ofItems items)
  | .object entries => .mapping (ofEntries entries)

def ofItems : List Json → List Yaml
  | [] => []
  | item :: rest => ofJson item :: ofItems rest

def ofEntries : List (String × Json) → List (Yaml × Yaml)
  | [] => []
  | (key, value) :: rest => (.string key, ofJson value) :: ofEntries rest

end

theorem itemsToJson_ofItems {items : List Json}
    (all : ∀ item ∈ items, (ofJson item).toJson = item) :
    itemsToJson (ofItems items) = items := by
  induction items with
  | nil => rfl
  | cons item rest induction =>
      have parts := List.forall_mem_cons.mp all
      rw [ofItems, itemsToJson, parts.1, induction parts.2]

theorem entriesToJson_ofEntries {entries : List (String × Json)}
    (all : ∀ entry ∈ entries, (ofJson entry.2).toJson = entry.2) :
    entriesToJson (ofEntries entries) = entries := by
  induction entries with
  | nil => rfl
  | cons entry rest induction =>
      have parts := List.forall_mem_cons.mp all
      rw [ofEntries, entriesToJson, parts.1, induction parts.2, key?]

theorem toJson_ofJson {json : Json} (proper : json.Proper) : (ofJson json).toJson = json := by
  induction proper with
  | null | boolean | string => rfl
  | number proper => exact YamlNumber.toJson_ofJson proper
  | array _ induction => rw [ofJson, toJson, itemsToJson_ofItems induction]
  | object increases _ induction =>
      rw [ofJson, toJson, entriesToJson_ofEntries induction, Json.ofEntries,
        Dictionary.sorted_of_increases increases]

mutual

theorem proper_toJson : (yaml : Yaml) → yaml.toJson.Proper
  | null => .null
  | boolean value => .boolean value
  | number value => value.proper_toJson
  | string value => .string value
  | sequence items => .array (proper_itemsToJson items)
  | mapping entries => Json.proper_ofEntries (proper_entriesToJson entries)
  | tagged _ value => proper_toJson value

theorem proper_itemsToJson : (items : List Yaml) → ∀ item ∈ itemsToJson items, item.Proper
  | [] => nofun
  | item :: rest => List.forall_mem_cons.mpr ⟨proper_toJson item, proper_itemsToJson rest⟩

theorem proper_entriesToJson :
    (entries : List (Yaml × Yaml)) → ∀ entry ∈ entriesToJson entries, entry.2.Proper
  | [] => nofun
  | (key, value) :: rest => by
      rw [entriesToJson]
      split
      next =>
        exact List.forall_mem_cons.mpr ⟨proper_toJson value, proper_entriesToJson rest⟩
      next => exact proper_entriesToJson rest

end

/-- What conversion to JSON keeps: values whatever their tags, the items of a sequence, and
under each text the last value of a mapping. Only doubles that are not finite become null.
Data comes back from its image in YAML exactly if JSON can have it. -/
theorem toJson_keeps :
    (∀ yaml : Yaml, yaml.withoutTags.Untagged ∧ yaml.withoutTags.toJson = yaml.toJson) ∧
    (∀ items, (sequence items).toJson = .array (items.map toJson)) ∧
    (∀ entries, ∃ fields, (mapping entries).toJson = .object fields ∧
      Dictionary.Increases fields ∧
      (∀ text, text ∈ Dictionary.keys fields ↔ ∃ entry ∈ entries, KeyText entry.1 text) ∧
      ∀ text entry, IsLast (fun entry => KeyText entry.1 text) entries entry →
        Dictionary.get? fields text = some entry.2.toJson) ∧
    (∀ value : Float, value.isNaN = true ∨ value.isInf = true →
      (number (.double value)).toJson = .null) ∧
    ∀ json : Json, json.Proper ↔ (ofJson json).toJson = json := by
  refine ⟨fun yaml => ⟨untagged_withoutTags yaml, toJson_withoutTags yaml⟩, ?_, ?_, ?_, ?_⟩
  · intro items
    rw [toJson, itemsToJson_eq_map]
  · intro entries
    refine ⟨Dictionary.sorted (entriesToJson entries), ?_, Dictionary.increases_sorted _, ?_,
      fun text entry => get?_of_isLast⟩
    · rw [toJson, Json.ofEntries]
    · exact fun text => Dictionary.mem_keys_sorted.trans mem_keys_entriesToJson
  · intro value extreme
    rw [toJson, YamlNumber.toJson_double, Json.ofFloat_eq, Json.isFinite_eq_false extreme]
    rfl
  · exact fun json => ⟨toJson_ofJson, fun same => same ▸ proper_toJson (ofJson json)⟩

/-- A number and a string with one text, a tagged key, and the extremes of whole numbers. -/
theorem toJson_keeps_last_of_one_text :
    let entries : List (Yaml × Yaml) := [(.number (.ofInt 1), .null),
      (.string "1", .tagged "!t" (.string "one")), (.tagged "!t" (.string "1"), .null)]
    let extremes : Json := .object [("least", .number (.whole (-9223372036854775808))),
      ("most", .number (.whole 18446744073709551615))]
    KeyText (.number (.ofInt 1)) "1" ∧
      IsLast (fun entry => KeyText entry.1 "1") entries
        (.string "1", .tagged "!t" (.string "one")) ∧
      (∃ fields, (mapping entries).toJson = .object fields ∧
        Dictionary.get? fields "1" = some (.string "one")) ∧
      Number.notANumber.isNaN = true ∧
      (number (.double Number.notANumber)).toJson = .null ∧
      extremes.Proper ∧ (ofJson extremes).toJson = extremes := by
  intro entries extremes
  have first : KeyText (.number (.ofInt 1)) "1" := key?_eq_some_iff.mp (by decide +kernel)
  have last : IsLast (fun entry => KeyText entry.1 "1") entries
      (.string "1", .tagged "!t" (.string "one")) := by
    refine ⟨[_], [_], rfl, .string "1", List.forall_mem_singleton.mpr fun named => ?_⟩
    cases key?_eq_some_iff.mpr named
  have extreme : Number.notANumber.isNaN = true := by decide
  have proper : extremes.Proper := by
    refine .object (by unfold Dictionary.Increases; decide +kernel)
      (List.forall_mem_cons.mpr ⟨?_, List.forall_mem_singleton.mpr ?_⟩)
    · exact .number ⟨by decide, by decide⟩
    · exact .number ⟨by decide, by decide⟩
  rcases toJson_keeps with ⟨-, -, mappings, doubles, images⟩
  rcases mappings entries with ⟨fields, same, -, -, values⟩
  exact ⟨first, last, ⟨fields, same, values _ _ last⟩, extreme, doubles _ (.inl extreme),
    proper, (images extremes).mp proper⟩

end Yaml

end PageTemplates
