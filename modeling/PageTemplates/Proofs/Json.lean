import PageTemplates.Context
import PageTemplates.Proofs.Dictionary
import PageTemplates.Proofs.Evaluation.Stored
import PageTemplates.Proofs.Value.Depth

/-! # Data at every depth

What stands within data, and within the data of a context, whose objects list no key twice.
-/

namespace PageTemplates

namespace Json

/-- Data stands within other data: it is that data, or stands within one of its items or
entries. -/
inductive Within : Json → Json → Prop
  | here (json : Json) : Within json json
  | item {inner item : Json} {items : List Json} (member : item ∈ items)
      (within : Within inner item) : Within inner (.array items)
  | entry {inner : Json} {entry : String × Json} {entries : List (String × Json)}
      (member : entry ∈ entries) (within : Within inner entry.2) :
      Within inner (.object entries)

theorem Within.isOrdered {inner outer : Json} (within : Within inner outer)
    (ordered : outer.isOrdered = true) : inner.isOrdered = true := by
  induction within with
  | here => exact ordered
  | item member _ induction => exact induction (isOrdered_array.mp ordered _ member)
  | entry member _ induction => exact induction ((isOrdered_object.mp ordered).2 _ member)

end Json

/-! ## Values of data -/

theorem Value.ofEntries_eq_map (entries : List (String × Json)) :
    ofEntries entries = entries.map fun entry => (entry.1, ofJson entry.2) := by
  induction entries with
  | nil => rfl
  | cons entry rest induction => simp [ofEntries, induction]

@[simp]
theorem Value.keys_ofEntries (entries : List (String × Json)) :
    Dictionary.keys (ofEntries entries) = Dictionary.keys entries := by
  simp [ofEntries_eq_map, Dictionary.keys]

/-- What stands within the value of data is the value of data that stands within it. -/
theorem Value.within_ofJson {inner : Value} {json : Json} (within : Within inner (ofJson json)) :
    ∃ data, Json.Within data json ∧ ofJson data = inner := by
  generalize same : ofJson json = value at within
  induction within generalizing json with
  | here => exact ⟨json, .here _, same⟩
  | item member _ induction =>
      cases json with
      | array items =>
          cases same
          rw [ofItems_eq_map] at member
          rcases List.mem_map.mp member with ⟨item, stored, equal⟩
          rcases induction equal with ⟨data, within, found⟩
          exact ⟨data, .item stored within, found⟩
      | _ => cases same
  | entry member _ induction =>
      cases json with
      | object entries =>
          cases same
          rw [ofEntries_eq_map] at member
          rcases List.mem_map.mp member with ⟨entry, stored, rfl⟩
          rcases induction rfl with ⟨data, within, found⟩
          exact ⟨data, .entry stored within, found⟩
      | _ => cases same

/-! ## Contexts -/

namespace Context

/-- Data occurs in the data of a context. -/
def Holds (context : Context) (data : Json) : Prop :=
  ∃ entry ∈ context.entries, Json.Within data entry.2

theorem holds_of_get? {context : Context} {name : String} {json data : Json}
    (found : context.get? name = some json) (within : Json.Within data json) :
    context.Holds data := by
  rcases List.lookup_eq_some_iff.mp found with ⟨before, after, same, -⟩
  exact ⟨(name, json), by simp [same], within⟩

theorem Holds.isOrdered {context : Context} {data : Json} (holds : context.Holds data) :
    data.isOrdered = true := by
  rcases holds with ⟨entry, member, within⟩
  exact within.isOrdered ((Json.isOrdered_object.mp context.ordered).2 entry member)

theorem Holds.increases {context : Context} {entries : List (String × Json)}
    (holds : context.Holds (.object entries)) : Dictionary.Increases entries :=
  (Json.isOrdered_object.mp holds.isOrdered).1

end Context

end PageTemplates
