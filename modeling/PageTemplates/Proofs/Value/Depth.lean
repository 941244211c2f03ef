import PageTemplates.Dictionary
import PageTemplates.Value.Comparison

/-! # Values at every depth

What stands within a value at any depth, and what it means there: that objects list no
key twice, that a number is none, and that two values differ in nothing but the order of
keys.
-/

namespace PageTemplates.Value

/-- What passes from the items of an array and the entries of an object to the array or
object itself, and holds of the other values, holds of all values. -/
theorem nested_induction {motive : Value → Prop}
    (plain : ∀ value, value.isCompound = false → motive value)
    (array : ∀ items, (∀ item ∈ items, motive item) → motive (.array items))
    (object : ∀ entries, (∀ entry ∈ entries, motive entry.2) → motive (.object entries))
    (value : Value) : motive value := by
  refine @Value.rec motive (fun items => ∀ item ∈ items, motive item)
    (fun entries => ∀ entry ∈ entries, motive entry.2) (fun entry => motive entry.2)
    (plain _ rfl) (plain _ rfl) (fun _ => plain _ rfl) (fun _ => plain _ rfl)
    (fun _ => plain _ rfl) array object ?_ ?_ ?_ ?_ (fun _ _ induction => induction) value
  · exact List.forall_mem_nil _
  · exact fun _ _ first rest => List.forall_mem_cons.mpr ⟨first, rest⟩
  · exact List.forall_mem_nil _
  · exact fun _ _ first rest => List.forall_mem_cons.mpr ⟨first, rest⟩

/-- A value stands within another: it is that value, or stands within one of its items
or entries. -/
inductive Within : Value → Value → Prop
  | here (value : Value) : Within value value
  | item {inner item : Value} {items : List Value} (member : item ∈ items)
      (within : Within inner item) : Within inner (.array items)
  | entry {inner : Value} {entry : String × Value} {entries : List (String × Value)}
      (member : entry ∈ entries) (within : Within inner entry.2) :
      Within inner (.object entries)

theorem within_of_plain {inner value : Value} (plain : value.isCompound = false) :
    Within inner value ↔ inner = value := by
  refine ⟨fun within => ?_, fun same => same ▸ .here inner⟩
  cases within with
  | here => rfl
  | item | entry => simp [isCompound] at plain

@[simp]
theorem within_array {inner : Value} {items : List Value} :
    Within inner (.array items) ↔
      inner = .array items ∨ ∃ item ∈ items, Within inner item := by
  refine ⟨fun within => ?_, fun cases => ?_⟩
  · cases within with
    | here => exact .inl rfl
    | item member within => exact .inr ⟨_, member, within⟩
  · rcases cases with rfl | ⟨item, member, within⟩
    · exact .here _
    · exact .item member within

@[simp]
theorem within_object {inner : Value} {entries : List (String × Value)} :
    Within inner (.object entries) ↔
      inner = .object entries ∨ ∃ entry ∈ entries, Within inner entry.2 := by
  refine ⟨fun within => ?_, fun cases => ?_⟩
  · cases within with
    | here => exact .inl rfl
    | entry member within => exact .inr ⟨_, member, within⟩
  · rcases cases with rfl | ⟨entry, member, within⟩
    · exact .here _
    · exact .entry member within

/-! ## Distinct keys -/

/-- No object within the value lists a key twice. -/
def Distinct (value : Value) : Prop :=
  ∀ entries, Within (.object entries) value → (Dictionary.keys entries).Nodup

theorem Distinct.keys {entries : List (String × Value)}
    (distinct : Distinct (.object entries)) : (Dictionary.keys entries).Nodup :=
  distinct entries (.here _)

theorem Distinct.item {items : List Value} (distinct : Distinct (.array items)) {item : Value}
    (member : item ∈ items) : item.Distinct :=
  fun entries within => distinct entries (.item member within)

theorem Distinct.entry {entries : List (String × Value)}
    (distinct : Distinct (.object entries)) {entry : String × Value}
    (member : entry ∈ entries) : entry.2.Distinct :=
  fun inner within => distinct inner (.entry member within)

theorem distinct_of_plain {value : Value} (plain : value.isCompound = false) :
    value.Distinct := by
  intro entries within
  have same := (within_of_plain plain).mp within
  simp [← same, isCompound] at plain

@[simp]
theorem distinct_array {items : List Value} :
    Distinct (.array items) ↔ ∀ item ∈ items, item.Distinct := by
  refine ⟨fun distinct item member => distinct.item member, fun distinct entries within => ?_⟩
  rcases within_array.mp within with same | ⟨item, member, within⟩
  · simp at same
  · exact distinct item member entries within

@[simp]
theorem distinct_object {entries : List (String × Value)} :
    Distinct (.object entries) ↔
      (Dictionary.keys entries).Nodup ∧ ∀ entry ∈ entries, entry.2.Distinct := by
  refine ⟨fun distinct => ⟨distinct.keys, fun entry member => distinct.entry member⟩,
    fun ⟨keys, distinct⟩ inner within => ?_⟩
  rcases within_object.mp within with same | ⟨entry, member, within⟩
  · exact Value.object.inj same ▸ keys
  · exact distinct entry member inner within

/-! ## Numbers that are none -/

def HoldsNaN (value : Value) : Prop :=
  ∃ amount : Float, amount.isNaN = true ∧ Within (.number amount) value

@[simp]
theorem holdsNaN_number {amount : Float} :
    HoldsNaN (.number amount) ↔ amount.isNaN = true := by
  have plain : isCompound (.number amount) = false := rfl
  simp only [HoldsNaN, within_of_plain plain, number.injEq, exists_eq_right]

@[simp]
theorem holdsNaN_array {items : List Value} :
    HoldsNaN (.array items) ↔ ∃ item ∈ items, item.HoldsNaN := by
  simp only [HoldsNaN, within_array, reduceCtorEq, false_or]
  exact ⟨fun ⟨amount, isNaN, item, member, within⟩ => ⟨item, member, amount, isNaN, within⟩,
    fun ⟨item, member, amount, isNaN, within⟩ => ⟨amount, isNaN, item, member, within⟩⟩

@[simp]
theorem holdsNaN_object {entries : List (String × Value)} :
    HoldsNaN (.object entries) ↔ ∃ entry ∈ entries, entry.2.HoldsNaN := by
  simp only [HoldsNaN, within_object, reduceCtorEq, false_or]
  exact ⟨fun ⟨amount, isNaN, entry, member, within⟩ => ⟨entry, member, amount, isNaN, within⟩,
    fun ⟨entry, member, amount, isNaN, within⟩ => ⟨amount, isNaN, entry, member, within⟩⟩

/-! ## The order of keys -/

/-- One value is the other but for the order in which objects, at any depth, list their
entries. -/
inductive Reordered : Value → Value → Prop
  | refl (value : Value) : Reordered value value
  | trans {one other third : Value} (first : Reordered one other)
      (second : Reordered other third) : Reordered one third
  | entries {left right : List (String × Value)} (same : left.Perm right) :
      Reordered (.object left) (.object right)
  | item (before after : List Value) {one other : Value} (inner : Reordered one other) :
      Reordered (.array (before ++ one :: after)) (.array (before ++ other :: after))
  | entry (before after : List (String × Value)) (key : String) {one other : Value}
      (inner : Reordered one other) :
      Reordered (.object (before ++ (key, one) :: after))
        (.object (before ++ (key, other) :: after))

end PageTemplates.Value
