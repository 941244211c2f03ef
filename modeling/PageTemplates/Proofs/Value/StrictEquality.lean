import Mathlib
import PageTemplates.Proofs.Dictionary
import PageTemplates.Proofs.Value.Depth

/-! # Laws of strict equality

Strict equality is symmetric on values with distinct keys. It is transitive, no value that
holds NaN is equal to anything, and every other value is equal to itself. The order of
keys makes no difference to it.
-/

namespace PageTemplates.Value

/-! ## Items and entries -/

/-- As many items on both sides, with equal ones at the same places. -/
structure ItemsMatch (left right : List Value) : Prop where
  lengths : left.length = right.length
  items : ∀ (place : Nat) (one other : Value), left[place]? = some one →
    right[place]? = some other → strictEquals one other = true

/-- As many entries on both sides, and on the right an equal one for each on the left. -/
structure EntriesMatch (left right : List (String × Value)) : Prop where
  lengths : left.length = right.length
  entries : ∀ entry ∈ left, ∃ other ∈ right,
    other.1 = entry.1 ∧ strictEquals entry.2 other.2 = true

theorem ItemsMatch.exists_getElem? {left right : List Value} (matched : ItemsMatch left right)
    {place : Nat} {one : Value} (stored : left[place]? = some one) :
    ∃ other, right[place]? = some other ∧ strictEquals one other = true := by
  have inside : place < right.length :=
    matched.lengths ▸ (List.getElem?_eq_some_iff.mp stored).1
  have found := List.getElem?_eq_getElem inside
  exact ⟨_, found, matched.items place _ _ stored found⟩

theorem itemsEqual_iff {left right : List Value} :
    itemsEqual left right = true ↔ ∀ (place : Nat) (one other : Value),
      left[place]? = some one → right[place]? = some other →
        strictEquals one other = true := by
  induction left generalizing right with
  | nil => simp [itemsEqual]
  | cons first rest induction =>
      cases right with
      | nil => simp [itemsEqual]
      | cons otherFirst otherRest =>
          rw [itemsEqual, Bool.and_eq_true, induction]
          refine ⟨fun equal place => ?_, fun equal => ⟨?_, fun place => ?_⟩⟩
          · cases place with
            | zero => simpa using equal.1
            | succ place => simpa using equal.2 place
          · exact equal 0 first otherFirst rfl rfl
          · exact equal (place + 1)

theorem entriesWithin_eq_all (left right : List (String × Value)) :
    entriesWithin left right = left.all fun entry =>
      right.any fun other => other.1 == entry.1 && strictEquals entry.2 other.2 := by
  induction left with
  | nil => rfl
  | cons entry rest induction => rw [entriesWithin, induction, List.all_cons]

theorem strictEquals_array {items : List Value} {other : Value} :
    strictEquals (.array items) other = true ↔
      ∃ others, other = .array others ∧ ItemsMatch items others := by
  cases other with
  | array others =>
      rw [strictEquals, Bool.and_eq_true, beq_iff_eq, itemsEqual_iff]
      refine ⟨fun equal => ⟨others, rfl, equal.1, equal.2⟩, ?_⟩
      rintro ⟨_, same, matched⟩
      cases same
      exact ⟨matched.lengths, matched.items⟩
  | _ => simp [strictEquals]

theorem strictEquals_object {entries : List (String × Value)} {other : Value} :
    strictEquals (.object entries) other = true ↔
      ∃ others, other = .object others ∧ EntriesMatch entries others := by
  cases other with
  | object others =>
      simp only [strictEquals, entriesWithin_eq_all, Bool.and_eq_true, beq_iff_eq,
        List.all_eq_true, List.any_eq_true]
      refine ⟨fun equal => ⟨others, rfl, equal.1, equal.2⟩, ?_⟩
      rintro ⟨_, same, matched⟩
      cases same
      exact ⟨matched.lengths, matched.entries⟩
  | _ => simp [strictEquals]

/-! ## Symmetry -/

/-- Distinct keys that all occur among as many others leave no other key out. -/
theorem keys_subset_of_length {left right : List (String × Value)}
    (distinct : (Dictionary.keys left).Nodup)
    (included : Dictionary.keys left ⊆ Dictionary.keys right)
    (lengths : left.length = right.length) :
    Dictionary.keys right ⊆ Dictionary.keys left := by
  have counts : (Dictionary.keys right).length ≤ (Dictionary.keys left).length := by
    simp [Dictionary.keys, lengths]
  exact ((List.subperm_of_subset distinct included).perm_of_length_le counts).symm.subset

/-- Where no key occurs twice, every entry on the right has its equal one in turn. -/
theorem EntriesMatch.exists_entry {left right : List (String × Value)}
    (matched : EntriesMatch left right) (leftDistinct : (Dictionary.keys left).Nodup)
    (rightDistinct : (Dictionary.keys right).Nodup) {other : String × Value}
    (member : other ∈ right) :
    ∃ entry ∈ left, entry.1 = other.1 ∧ strictEquals entry.2 other.2 = true := by
  have included : Dictionary.keys left ⊆ Dictionary.keys right := by
    intro key found
    rcases List.mem_map.mp found with ⟨entry, entryMember, rfl⟩
    rcases matched.entries entry entryMember with ⟨equalOne, equalMember, sameKey, -⟩
    exact List.mem_map.mpr ⟨equalOne, equalMember, sameKey⟩
  have covered := keys_subset_of_length leftDistinct included matched.lengths
    (List.mem_map_of_mem member)
  rcases List.mem_map.mp covered with ⟨entry, entryMember, sameKey⟩
  rcases matched.entries entry entryMember with ⟨equalOne, equalMember, equalKey, equal⟩
  have same : equalOne = other := List.inj_on_of_nodup_map rightDistinct equalMember member
    (equalKey.trans sameKey)
  exact ⟨entry, entryMember, sameKey, same ▸ equal⟩

theorem strictEquals_symm {one other : Value} (oneDistinct : one.Distinct)
    (otherDistinct : other.Distinct) (equal : strictEquals one other = true) :
    strictEquals other one = true := by
  induction one using nested_induction generalizing other with
  | plain one plain =>
      cases one with
      | number amount =>
          cases other with
          | number otherAmount => exact BEq.symm equal
          | _ => simp [strictEquals] at equal
      | array | object => simp [isCompound] at plain
      | _ => cases other <;> simp_all [strictEquals]
  | array items induction =>
      rcases strictEquals_array.mp equal with ⟨others, rfl, matched⟩
      refine strictEquals_array.mpr ⟨items, rfl, matched.lengths.symm, ?_⟩
      intro place one other found stored
      have member := List.mem_of_getElem? stored
      exact induction other member (oneDistinct.item member)
        (otherDistinct.item (List.mem_of_getElem? found))
        (matched.items place other one stored found)
  | object entries induction =>
      rcases strictEquals_object.mp equal with ⟨others, rfl, matched⟩
      refine strictEquals_object.mpr ⟨entries, rfl, matched.lengths.symm, ?_⟩
      intro other member
      rcases matched.exists_entry oneDistinct.keys otherDistinct.keys member with
        ⟨entry, entryMember, sameKey, equal⟩
      exact ⟨entry, entryMember, sameKey, induction entry entryMember
        (oneDistinct.entry entryMember) (otherDistinct.entry member) equal⟩

theorem strictEquals_comm {one other : Value} (oneDistinct : one.Distinct)
    (otherDistinct : other.Distinct) : strictEquals one other = strictEquals other one :=
  Bool.eq_iff_iff.mpr
    ⟨strictEquals_symm oneDistinct otherDistinct, strictEquals_symm otherDistinct oneDistinct⟩

/-- Without distinct keys one side may have a key that the other lacks. -/
example :
    let twice := object [("a", .null), ("a", .null)]
    let both := object [("a", .null), ("b", .null)]
    strictEquals twice both = true ∧ strictEquals both twice = false := by
  decide +kernel

/-! ## Transitivity -/

theorem strictEquals_trans {one other third : Value}
    (first : strictEquals one other = true) (second : strictEquals other third = true) :
    strictEquals one third = true := by
  induction one using nested_induction generalizing other third with
  | plain one plain =>
      cases one with
      | number amount =>
          cases other with
          | number otherAmount =>
              cases third with
              | number thirdAmount => exact BEq.trans first second
              | _ => simp [strictEquals] at second
          | _ => simp [strictEquals] at first
      | array | object => simp [isCompound] at plain
      | _ => cases other <;> cases third <;> simp_all [strictEquals]
  | array items induction =>
      rcases strictEquals_array.mp first with ⟨others, rfl, firstMatched⟩
      rcases strictEquals_array.mp second with ⟨thirds, rfl, secondMatched⟩
      refine strictEquals_array.mpr
        ⟨thirds, rfl, firstMatched.lengths.trans secondMatched.lengths, ?_⟩
      intro place one third stored found
      rcases firstMatched.exists_getElem? stored with ⟨other, between, equal⟩
      exact induction one (List.mem_of_getElem? stored) equal
        (secondMatched.items place other third between found)
  | object entries induction =>
      rcases strictEquals_object.mp first with ⟨others, rfl, firstMatched⟩
      rcases strictEquals_object.mp second with ⟨thirds, rfl, secondMatched⟩
      refine strictEquals_object.mpr
        ⟨thirds, rfl, firstMatched.lengths.trans secondMatched.lengths, ?_⟩
      intro entry member
      rcases firstMatched.entries entry member with ⟨other, otherMember, otherKey, equal⟩
      rcases secondMatched.entries other otherMember with
        ⟨third, thirdMember, thirdKey, thirdEqual⟩
      exact ⟨third, thirdMember, thirdKey.trans otherKey,
        induction entry member equal thirdEqual⟩

/-! ## Equality to itself -/

theorem not_holdsNaN_of_strictEquals {one other : Value}
    (equal : strictEquals one other = true) : ¬one.HoldsNaN := by
  induction one using nested_induction generalizing other with
  | plain one plain =>
      rintro ⟨amount, isNaN, within⟩
      rcases (within_of_plain plain).mp within with rfl
      cases other with
      | number otherAmount =>
          have itself : (amount == amount) = true := BEq.trans equal (BEq.symm equal)
          exact Float.beq_self_iff.mp itself (by simpa using isNaN)
      | _ => simp [strictEquals] at equal
  | array items induction =>
      rcases strictEquals_array.mp equal with ⟨others, -, matched⟩
      rw [holdsNaN_array]
      rintro ⟨item, member, holds⟩
      rcases List.getElem?_of_mem member with ⟨place, stored⟩
      rcases matched.exists_getElem? stored with ⟨other, -, equal⟩
      exact induction item member equal holds
  | object entries induction =>
      rcases strictEquals_object.mp equal with ⟨others, -, matched⟩
      rw [holdsNaN_object]
      rintro ⟨entry, member, holds⟩
      rcases matched.entries entry member with ⟨other, -, -, equal⟩
      exact induction entry member equal holds

theorem strictEquals_self {value : Value} (numbers : ¬value.HoldsNaN) :
    strictEquals value value = true := by
  induction value using nested_induction with
  | plain value plain =>
      cases value with
      | number amount =>
          exact Float.beq_self_iff.mpr (by simpa using numbers)
      | array | object => simp [isCompound] at plain
      | _ => simp [strictEquals]
  | array items induction =>
      refine strictEquals_array.mpr ⟨items, rfl, rfl, ?_⟩
      intro place one other stored found
      rcases Option.some.inj (stored.symm.trans found) with rfl
      have member := List.mem_of_getElem? stored
      exact induction one member fun holds =>
        numbers (holdsNaN_array.mpr ⟨one, member, holds⟩)
  | object entries induction =>
      refine strictEquals_object.mpr ⟨entries, rfl, rfl, ?_⟩
      intro entry member
      exact ⟨entry, member, rfl, induction entry member fun holds =>
        numbers (holdsNaN_object.mpr ⟨entry, member, holds⟩)⟩

/-! ## The order of keys -/

/-- Strict equality tells one value from the other on neither side. -/
def Interchangeable (one other : Value) : Prop :=
  ∀ third, strictEquals one third = strictEquals other third ∧
    strictEquals third one = strictEquals third other

theorem itemsEqual_replace (before after : List Value) {one other : Value}
    (inner : Interchangeable one other) (items : List Value) :
    itemsEqual (before ++ one :: after) items =
        itemsEqual (before ++ other :: after) items ∧
      itemsEqual items (before ++ one :: after) =
        itemsEqual items (before ++ other :: after) := by
  induction before generalizing items with
  | nil =>
      cases items with
      | nil => simp [itemsEqual]
      | cons item rest => simp [itemsEqual, inner item]
  | cons first rest induction =>
      cases items with
      | nil => simp [itemsEqual]
      | cons item items => simp [itemsEqual, induction items]

theorem Interchangeable.item (before after : List Value) {one other : Value}
    (inner : Interchangeable one other) :
    Interchangeable (.array (before ++ one :: after)) (.array (before ++ other :: after)) := by
  intro third
  cases third with
  | array items =>
      simp [strictEquals, itemsEqual_replace before after inner items]
  | _ => simp [strictEquals]

theorem Interchangeable.entry (before after : List (String × Value)) (key : String)
    {one other : Value} (inner : Interchangeable one other) :
    Interchangeable (.object (before ++ (key, one) :: after))
      (.object (before ++ (key, other) :: after)) := by
  intro third
  cases third with
  | object entries =>
      simp [strictEquals, entriesWithin_eq_all, inner _]
  | _ => simp [strictEquals]

theorem interchangeable_of_perm {left right : List (String × Value)}
    (same : left.Perm right) : Interchangeable (.object left) (.object right) := by
  intro third
  cases third with
  | object entries =>
      simp [strictEquals, entriesWithin_eq_all, same.length_eq, same.all_eq, same.any_eq]
  | _ => simp [strictEquals]

theorem Reordered.interchangeable {one other : Value} (reordered : Reordered one other) :
    Interchangeable one other := by
  induction reordered with
  | refl => exact fun third => ⟨rfl, rfl⟩
  | trans first second firstSame secondSame =>
      exact fun third => ⟨(firstSame third).1.trans (secondSame third).1,
        (firstSame third).2.trans (secondSame third).2⟩
  | entries same => exact interchangeable_of_perm same
  | item before after inner same => exact same.item before after
  | entry before after key inner same => exact same.entry before after key

end PageTemplates.Value
