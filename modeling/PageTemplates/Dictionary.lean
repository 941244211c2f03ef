/-! # Dictionaries

Keyed values in a list. Where a key occurs more than once its first value counts;
`put`, `putSorted` and `erase` keep keys distinct.
-/

namespace PageTemplates

/-- Values under keys, in an order that is part of the dictionary. -/
abbrev Dictionary (Key : Type) (Value : Type) := List (Key × Value)

namespace Dictionary

variable {Key Value : Type}

def keys (entries : Dictionary Key Value) : List Key :=
  entries.map Prod.fst

@[simp]
theorem keys_nil : keys ([] : Dictionary Key Value) = [] := rfl

@[simp]
theorem keys_cons (entry : Key × Value) (rest : Dictionary Key Value) :
    keys (entry :: rest) = entry.1 :: keys rest := rfl

@[simp]
theorem keys_append (entries others : Dictionary Key Value) :
    keys (entries ++ others) = keys entries ++ keys others :=
  List.map_append

variable [BEq Key]

/-- The first value under `key`. -/
def get? (entries : Dictionary Key Value) (key : Key) : Option Value :=
  List.lookup key entries

@[simp]
theorem get?_nil (key : Key) : get? ([] : Dictionary Key Value) key = none := rfl

def has (entries : Dictionary Key Value) (key : Key) : Bool :=
  entries.any fun entry => entry.1 == key

/-- Set the value under `key`, at the place of the key if it has one and else at the
end. -/
def put (key : Key) (value : Value) : Dictionary Key Value → Dictionary Key Value
  | [] => [(key, value)]
  | entry :: rest =>
      if entry.1 == key then (entry.1, value) :: rest else entry :: put key value rest

example : put "a" 3 [("a", 1), ("b", 2)] = [("a", 3), ("b", 2)] := by decide

def erase (key : Key) (entries : Dictionary Key Value) : Dictionary Key Value :=
  entries.filter fun entry => !(entry.1 == key)

end Dictionary

/-! ## Increasing keys -/

namespace Dictionary

variable {Value : Type}

/-- The keys stand in increasing order, so that none stands twice. -/
def Increases (entries : Dictionary String Value) : Prop :=
  (keys entries).Pairwise fun one later => compare one later = .lt

instance (entries : Dictionary String Value) : Decidable (Increases entries) :=
  inferInstanceAs (Decidable (List.Pairwise _ _))

/-- Set the value under `key` in a dictionary whose keys increase. -/
def putSorted (key : String) (value : Value) :
    Dictionary String Value → Dictionary String Value
  | [] => [(key, value)]
  | entry :: rest =>
      match compare key entry.1 with
      | .lt => (key, value) :: entry :: rest
      | .eq => (key, value) :: rest
      | .gt => entry :: putSorted key value rest

example : putSorted "b" 3 [("a", 1), ("c", 2)] = [("a", 1), ("b", 3), ("c", 2)] := by
  decide +kernel

/-- The dictionary of the given entries by increasing key. Of entries with one key the
last counts. -/
def sorted (entries : List (String × Value)) : Dictionary String Value :=
  entries.foldl (fun dictionary entry => putSorted entry.1 entry.2 dictionary) []

variable {entries : Dictionary String Value}

theorem mem_of_mem_putSorted {key : String} {value : Value} {entry : String × Value}
    (member : entry ∈ putSorted key value entries) : entry = (key, value) ∨ entry ∈ entries := by
  induction entries with
  | nil => exact .inl (List.mem_singleton.mp member)
  | cons first rest induction =>
      rw [putSorted] at member
      split at member
      next => exact List.mem_cons.mp member
      next =>
        exact (List.mem_cons.mp member).imp_right (List.mem_cons_of_mem _)
      next =>
        rcases List.mem_cons.mp member with rfl | later
        · exact .inr List.mem_cons_self
        · exact (induction later).imp_right (List.mem_cons_of_mem _)

theorem increases_putSorted (increases : Increases entries) (key : String) (value : Value) :
    Increases (putSorted key value entries) := by
  induction entries with
  | nil => exact List.pairwise_singleton _ _
  | cons entry rest induction =>
      have parts := List.pairwise_cons.mp increases
      rw [putSorted]
      split
      next less =>
        refine List.pairwise_cons.mpr ⟨fun later member => ?_, increases⟩
        rcases List.mem_cons.mp member with rfl | member
        · exact less
        · exact Std.TransCmp.lt_trans less (parts.1 later member)
      next same =>
        have same : key = entry.1 := Std.LawfulEqOrd.eq_of_compare same
        rw [same]
        exact increases
      next greater =>
        refine List.pairwise_cons.mpr ⟨fun later member => ?_, induction parts.2⟩
        rcases List.mem_map.mp member with ⟨found, stored, rfl⟩
        rcases mem_of_mem_putSorted stored with rfl | stored
        · exact Std.OrientedCmp.lt_of_gt greater
        · exact parts.1 _ (List.mem_map_of_mem stored)

theorem increases_sorted (entries : List (String × Value)) : Increases (sorted entries) :=
  List.foldlRecOn entries _ List.Pairwise.nil fun _ increases entry _ =>
    increases_putSorted increases entry.1 entry.2

theorem mem_of_mem_sorted {entries : List (String × Value)} {entry : String × Value}
    (member : entry ∈ sorted entries) : entry ∈ entries := by
  revert member
  refine List.foldlRecOn (motive := fun found => entry ∈ found → entry ∈ entries) entries _
    nofun fun _ induction added stands member => ?_
  rcases mem_of_mem_putSorted member with rfl | earlier
  · exact stands
  · exact induction earlier

end Dictionary

end PageTemplates
