import Mathlib.Data.List.Induction
import PageTemplates.Dictionary

/-! # Reading dictionaries

What is found under a key after an entry is put or entries are filtered out, and how
many keys there are.
-/

namespace PageTemplates

/-! ## The last of a list -/

/-- The item is the last of those of which `accepts` holds. -/
def IsLast {Item : Type} (accepts : Item → Prop) (items : List Item) (item : Item) : Prop :=
  ∃ before after, items = before ++ item :: after ∧ accepts item ∧
    ∀ other ∈ after, ¬ accepts other

theorem IsLast.mem {Item : Type} {accepts : Item → Prop} {items : List Item} {item : Item}
    (last : IsLast accepts items item) : item ∈ items ∧ accepts item := by
  rcases last with ⟨before, after, rfl, accepted, -⟩
  exact ⟨by simp, accepted⟩

theorem IsLast.map {Item Image : Type} (accepts : Image → Prop) (transform : Item → Image)
    {items : List Item} {item : Item}
    (last : IsLast (fun item => accepts (transform item)) items item) :
    IsLast accepts (items.map transform) (transform item) := by
  rcases last with ⟨before, after, rfl, accepted, latest⟩
  exact ⟨before.map transform, after.map transform, by simp, accepted,
    List.forall_mem_map.mpr latest⟩

theorem exists_isLast {Item : Type} {accepts : Item → Prop} {items : List Item}
    (accepted : ∃ item ∈ items, accepts item) : ∃ item, IsLast accepts items item := by
  induction items with
  | nil => simp at accepted
  | cons first rest induction =>
      by_cases later : ∃ item ∈ rest, accepts item
      · rcases induction later with ⟨item, before, after, rfl, last⟩
        exact ⟨item, first :: before, after, rfl, last⟩
      · rcases accepted with ⟨item, member, accepted⟩
        rcases List.mem_cons.mp member with rfl | member
        · exact ⟨item, [], rest, rfl, accepted, fun other member again =>
            later ⟨other, member, again⟩⟩
        · exact absurd ⟨item, member, accepted⟩ later

namespace Dictionary

variable {Key Value : Type} [BEq Key] [LawfulBEq Key]

@[simp]
theorem get?_cons (entry : Key × Value) (rest : Dictionary Key Value) (key : Key) :
    get? (entry :: rest) key = if entry.1 == key then some entry.2 else get? rest key := by
  rcases entry with ⟨name, value⟩
  by_cases same : name = key
  · simp [get?, same]
  · have other : (key == name) = false := by simpa using Ne.symm same
    simp [get?, List.lookup_cons, same, other]

@[simp]
theorem get?_put (key : Key) (value : Value) (entries : Dictionary Key Value)
    (asked : Key) :
    get? (put key value entries) asked =
      if key == asked then some value else get? entries asked := by
  induction entries with
  | nil => simp [put]
  | cons entry rest induction =>
      by_cases same : entry.1 = key
      · by_cases found : key = asked <;> simp [put, same, found]
      · by_cases found : entry.1 = asked
        · have later : key ≠ asked := fun equal => same (found.trans equal.symm)
          simp [put, found, later, later.symm]
        · simp [put, same, found, induction]

/-- What holds of all that is found holds still once an entry is put of which it holds. -/
theorem forall_get?_put {accepts : Key → Value → Prop} {entries : Dictionary Key Value}
    (all : ∀ asked found, get? entries asked = some found → accepts asked found)
    {key : Key} {value : Value} (accepted : accepts key value) :
    ∀ asked found, get? (put key value entries) asked = some found →
      accepts asked found := by
  intro asked found stored
  by_cases same : key = asked
  · simp only [get?_put, same, beq_self_eq_true, if_true, Option.some.injEq] at stored
    exact same ▸ stored ▸ accepted
  · exact all asked found (by simpa [same] using stored)

/-- A filter that goes by keys alone keeps what is found under the keys it accepts. -/
theorem get?_filter (accepts : Key → Bool) (entries : Dictionary Key Value) (asked : Key) :
    get? (entries.filter fun entry => accepts entry.1) asked =
      if accepts asked then get? entries asked else none := by
  induction entries with
  | nil => simp
  | cons entry rest induction =>
      by_cases found : entry.1 = asked
      · cases accepted : accepts asked with
        | true => simp [found, accepted]
        | false => simp [found, accepted, induction]
      · cases accepted : accepts entry.1 with
        | true => simp [found, accepted, induction]
        | false => simp [found, accepted, induction]

/-- Nothing is found under a key that is erased, and the same under any other. -/
@[simp]
theorem get?_erase (key : Key) (entries : Dictionary Key Value) (asked : Key) :
    get? (erase key entries) asked = if key == asked then none else get? entries asked := by
  rw [erase, get?_filter fun other => !(other == key)]
  by_cases same : key = asked
  · simp [same]
  · simp [same, Ne.symm same]

@[simp]
theorem get?_putSorted {Value : Type} (key : String) (value : Value)
    (entries : Dictionary String Value) (asked : String) :
    get? (putSorted key value entries) asked =
      if key == asked then some value else get? entries asked := by
  induction entries with
  | nil => simp [putSorted]
  | cons entry rest induction =>
      rw [putSorted]
      split
      next => rw [get?_cons]
      next order =>
        have same : key = entry.1 := Std.LawfulEqOrd.eq_of_compare order
        by_cases found : key = asked <;> simp [← same, found]
      next order =>
        have other : key ≠ entry.1 := by
          rintro rfl
          rw [Std.ReflOrd.compare_self] at order
          cases order
        by_cases found : entry.1 = asked
        · have later : key ≠ asked := fun equal => other (equal.trans found.symm)
          simp [found, later]
        · simp [found, induction]

/-- What holds of all that is found holds of what a filter by keys leaves to be found. -/
theorem forall_get?_filter {accepts : Key → Value → Prop} {entries : Dictionary Key Value}
    (all : ∀ asked found, get? entries asked = some found → accepts asked found)
    (keeps : Key → Bool) :
    ∀ asked found, get? (entries.filter fun entry => keeps entry.1) asked = some found →
      accepts asked found := by
  intro asked found kept
  rw [get?_filter] at kept
  cases keep : keeps asked with
  | true => exact all asked found (by simpa [keep] using kept)
  | false => simp [keep] at kept

/-! ## Keys -/

theorem mem_keys {entries : Dictionary Key Value} {key : Key} :
    key ∈ keys entries ↔ ∃ value, get? entries key = some value := by
  induction entries with
  | nil => simp
  | cons entry rest induction =>
      by_cases same : entry.1 = key
      · simp [same]
      · simpa [same, Ne.symm same] using induction

theorem has_eq_true {entries : Dictionary Key Value} {key : Key} :
    has entries key = true ↔ ∃ value, get? entries key = some value := by
  rw [← mem_keys]
  simp [has, keys]

theorem mem_of_get? {entries : Dictionary Key Value} {key : Key} {value : Value}
    (found : get? entries key = some value) : (key, value) ∈ entries := by
  induction entries with
  | nil => cases found
  | cons entry rest induction =>
      rw [get?_cons] at found
      split at found
      next same =>
        cases found
        rw [← beq_iff_eq.mp same]
        exact List.mem_cons_self
      next => exact List.mem_cons_of_mem _ (induction found)

/-- Where keys are distinct, what is found under a key is all that stands under it. -/
theorem get?_eq_some_iff_mem {entries : Dictionary Key Value}
    (distinct : (keys entries).Nodup) {key : Key} {value : Value} :
    get? entries key = some value ↔ (key, value) ∈ entries := by
  refine ⟨mem_of_get?, fun member => ?_⟩
  induction entries with
  | nil => cases member
  | cons entry rest induction =>
      rcases List.nodup_cons.mp distinct with ⟨absent, distinct⟩
      rw [get?_cons]
      rcases List.mem_cons.mp member with rfl | member
      · simp
      · have other : entry.1 ≠ key := by
          rintro rfl
          exact absent (List.mem_map.mpr ⟨_, member, rfl⟩)
        simpa [other] using induction distinct member

@[simp]
theorem mem_keys_put {key asked : Key} {value : Value} {entries : Dictionary Key Value} :
    asked ∈ keys (put key value entries) ↔ key = asked ∨ asked ∈ keys entries := by
  by_cases same : key = asked <;> simp [mem_keys, same]

theorem nodup_keys_put {entries : Dictionary Key Value} (distinct : (keys entries).Nodup)
    (key : Key) (value : Value) : (keys (put key value entries)).Nodup := by
  induction entries with
  | nil => simp [put]
  | cons entry rest induction =>
      rw [keys_cons, List.nodup_cons] at distinct
      by_cases same : entry.1 = key
      · simpa [put, same] using distinct
      · simpa [put, same, Ne.symm same, distinct.1] using induction distinct.2

theorem nodup_keys_filter {Key Value : Type} {entries : Dictionary Key Value}
    (distinct : (keys entries).Nodup) (accepts : Key × Value → Bool) :
    (keys (entries.filter accepts)).Nodup :=
  distinct.sublist (List.filter_sublist.map Prod.fst)

/-! ## Entries put one after another -/

theorem keys_put_of_mem {key : Key} {entries : Dictionary Key Value}
    (member : key ∈ keys entries) (value : Value) :
    keys (put key value entries) = keys entries := by
  induction entries with
  | nil => cases member
  | cons entry rest induction =>
      rw [put]
      split
      next => rfl
      next other =>
        have later : key ∈ keys rest := by
          refine (List.mem_cons.mp member).resolve_left ?_
          simpa using fun same : key = entry.1 => other (beq_iff_eq.mpr same.symm)
        exact congrArg (entry.1 :: ·) (induction later)

theorem keys_put_of_not_mem {key : Key} {entries : Dictionary Key Value}
    (absent : key ∉ keys entries) (value : Value) :
    keys (put key value entries) = keys entries ++ [key] := by
  induction entries with
  | nil => rfl
  | cons entry rest induction =>
      have parts := not_or.mp (mt List.mem_cons.mpr absent)
      rw [put, if_neg (by simpa using Ne.symm parts.1)]
      exact congrArg (entry.1 :: ·) (induction parts.2)

/-- One dictionary lists each key of the other once, at the place where the key stands
first, with the value that it has last. -/
structure Merges (entries merged : Dictionary Key Value) : Prop where
  keys : keys merged = (keys entries).eraseDups
  values (key : Key) : get? merged key = get? entries.reverse key

theorem merges_foldl_put (entries : Dictionary Key Value) :
    Merges entries (entries.foldl (fun merged entry => put entry.1 entry.2 merged) []) := by
  induction entries using List.reverseRecOn with
  | nil => exact ⟨rfl, fun _ => rfl⟩
  | append_singleton before entry induction =>
      rw [List.foldl_append, List.foldl_cons, List.foldl_nil]
      constructor
      · by_cases member : entry.1 ∈ Dictionary.keys before
        · rw [keys_put_of_mem (by simpa [induction.keys] using member), induction.keys,
            keys_append, List.eraseDups_append]
          simp [List.removeAll, member]
        · rw [keys_put_of_not_mem (by simpa [induction.keys] using member), induction.keys,
            keys_append, List.eraseDups_append]
          simp [List.removeAll, member, List.eraseDups_cons]
      · intro key
        simp [induction.values]

theorem nodup_keys_foldl_put (entries : Dictionary Key Value) :
    (keys (entries.foldl (fun merged entry => put entry.1 entry.2 merged) [])).Nodup := by
  induction entries using List.reverseRecOn with
  | nil => exact List.nodup_nil
  | append_singleton before entry induction =>
      rw [List.foldl_append]
      exact nodup_keys_put induction _ _

theorem mem_of_mem_put {key : Key} {value : Value} {entries : Dictionary Key Value}
    {entry : Key × Value} (member : entry ∈ put key value entries) :
    entry = (key, value) ∨ entry ∈ entries := by
  induction entries with
  | nil => exact .inl (List.mem_singleton.mp member)
  | cons first rest induction =>
      rw [put] at member
      split at member
      next same =>
        rw [beq_iff_eq.mp same] at member
        exact (List.mem_cons.mp member).imp_right (List.mem_cons_of_mem _)
      next =>
        rcases List.mem_cons.mp member with rfl | later
        · exact .inr List.mem_cons_self
        · exact (induction later).imp_right (List.mem_cons_of_mem _)

theorem mem_of_mem_foldl_put {entries : Dictionary Key Value} {entry : Key × Value}
    (member : entry ∈ entries.foldl (fun merged entry => put entry.1 entry.2 merged) []) :
    entry ∈ entries := by
  revert member
  refine List.foldlRecOn (motive := fun merged => entry ∈ merged → entry ∈ entries) entries _
    nofun fun _ induction put stands member => ?_
  rcases mem_of_mem_put member with rfl | earlier
  · exact stands
  · exact induction earlier

/-! ## Increasing keys -/

section

variable {Value : Type} {entries : Dictionary String Value}

theorem Increases.nodup (increases : Increases entries) : (keys entries).Nodup := by
  refine increases.imp fun {one later} less same => ?_
  rw [same, Std.ReflOrd.compare_self] at less
  cases less

theorem sorted_append_singleton (before : List (String × Value)) (entry : String × Value) :
    sorted (before ++ [entry]) = putSorted entry.1 entry.2 (sorted before) := by
  rw [sorted, List.foldl_append]
  rfl

/-- Of entries with one key the sorted dictionary has the last. -/
theorem get?_sorted (entries : List (String × Value)) (key : String) :
    get? (sorted entries) key = get? entries.reverse key := by
  induction entries using List.reverseRecOn with
  | nil => rfl
  | append_singleton before entry induction =>
      simp [sorted_append_singleton, induction]

@[simp]
theorem mem_keys_sorted {entries : List (String × Value)} {key : String} :
    key ∈ keys (sorted entries) ↔ key ∈ keys entries := by
  rw [mem_keys, funext (fun value => congrArg (· = some value) (get?_sorted entries key)),
    ← mem_keys]
  simp [keys]

theorem putSorted_of_greatest {key : String}
    (greatest : ∀ other ∈ keys entries, compare other key = .lt) (value : Value) :
    putSorted key value entries = entries ++ [(key, value)] := by
  induction entries with
  | nil => rfl
  | cons entry rest induction =>
      have parts := List.forall_mem_cons.mp greatest
      rw [putSorted, Std.OrientedCmp.gt_of_lt parts.1]
      exact congrArg (entry :: ·) (induction parts.2)

/-- Entries whose keys increase are left as they are. -/
theorem sorted_of_increases (increases : Increases entries) : sorted entries = entries := by
  induction entries using List.reverseRecOn with
  | nil => rfl
  | append_singleton before entry induction =>
      rw [Increases, keys_append, List.pairwise_append] at increases
      rw [sorted_append_singleton, induction increases.1]
      exact putSorted_of_greatest
        (fun other member => increases.2.2 other member _ List.mem_cons_self) entry.2

end

end Dictionary

end PageTemplates
