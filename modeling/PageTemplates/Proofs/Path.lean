import PageTemplates.Path
import PageTemplates.Proofs.Text.Split

/-! # Components of joined paths

A path that begins neither at the root nor with a point adds its components to those of
the path that it is joined to, however either is written.
-/

namespace PageTemplates.Path

/-- The components that the parts of a path make. -/
def inner (text : List Char) : List Component :=
  (Text.splitAt '/' text).filterMap componentOf?

theorem components_eq (path : Path) :
    path.components = start path.text.toList ++ inner path.text.toList :=
  rfl

@[simp]
theorem inner_append_slash (left right : List Char) :
    inner (left ++ '/' :: right) = inner left ++ inner right := by
  simp [inner]

@[simp]
theorem inner_nil : inner [] = [] := rfl

/-- The parts of a path that stand for something, as strings. -/
def names (text : List Char) : List String :=
  ((Text.splitAt '/' text).filter fun part => part ≠ [] ∧ part ≠ ['.']).map String.ofList

theorem mem_names {text : List Char} {name : String} :
    name ∈ names text ↔
      name.toList ∈ Text.splitAt '/' text ∧ name ≠ "" ∧ name ≠ "." := by
  have spelled (part : String) : name.toList = part.toList ↔ name = part := String.toList_inj
  simp only [names, List.mem_map, List.mem_filter, decide_eq_true_eq]
  constructor
  · rintro ⟨part, ⟨member, nonempty, notPoint⟩, rfl⟩
    rw [← String.toList_ofList (l := part)] at member nonempty notPoint
    exact ⟨member, fun empty => nonempty (by rw [empty]; rfl),
      fun point => notPoint (by rw [point]; rfl)⟩
  · rintro ⟨member, nonempty, notPoint⟩
    exact ⟨name.toList, ⟨member, fun empty => nonempty ((spelled "").mp empty),
      fun point => notPoint ((spelled ".").mp point)⟩, String.ofList_toList⟩

/-- Where no part goes up, the components are names. -/
theorem inner_eq_map_name {text : List Char}
    (descending : ['.', '.'] ∉ Text.splitAt '/' text) :
    inner text = (names text).map .name := by
  rw [inner, names]
  generalize Text.splitAt '/' text = parts at descending ⊢
  induction parts with
  | nil => rfl
  | cons part rest induction =>
      rw [List.mem_cons, not_or] at descending
      have others := induction descending.2
      by_cases nothing : part = [] ∨ part = ['.']
      · rcases nothing with rfl | rfl <;> simpa [componentOf?] using others
      · rw [not_or] at nothing
        simp [componentOf?, nothing, Ne.symm descending.1, others]

/-! ## The start

It goes by the first part, and by whether another part follows. -/

theorem start_of_splitAt {text first : List Char} {parts : List (List Char)}
    (cut : Text.splitAt '/' text = first :: parts) :
    start text =
      if first = [] then (if parts = [] then [] else [.root])
      else if first = ['.'] then [.here]
      else [] := by
  rw [start, cut]
  split
  next equal =>
    cases equal
    simp
  next equal =>
    cases equal
    simp
  next notRoot notHere =>
    cases first with
    | nil =>
        cases parts with
        | nil => simp
        | cons second parts => exact absurd rfl (notRoot second parts)
    | cons character rest =>
        have other : character :: rest ≠ ['.'] := by
          intro point
          exact notHere parts (congrArg (· :: parts) point)
        simp [other]

theorem start_append_slash {left : List Char} (right : List Char) :
    start (left ++ '/' :: right) = if left = [] then [.root] else start left := by
  rcases Text.exists_splitAt_eq_cons '/' left with ⟨first, parts, cut⟩
  rcases Text.exists_splitAt_eq_cons '/' right with ⟨next, nexts, rightCut⟩
  have joined : Text.splitAt '/' (left ++ '/' :: right) =
      first :: (parts ++ next :: nexts) := by
    rw [Text.splitAt_append_cons, cut, rightCut, List.cons_append]
  rw [start_of_splitAt joined, start_of_splitAt cut]
  by_cases empty : left = []
  · subst empty
    cases cut
    simp
  · -- A text without a slash is its only part, so an empty first part has a next one.
    have more : first = [] → parts ≠ [] := by
      rintro rfl rfl
      have spelled : ['/'].intercalate (left.splitOn '/') = left :=
        List.intercalate_splitOn '/'
      rw [← Text.splitAt_eq_splitOn, cut] at spelled
      exact empty spelled.symm
    by_cases first = [] <;> simp_all

theorem isAbsolute_eq_false {below : Path} (bare : start below.text.toList = []) :
    below.isAbsolute = false := by
  unfold isAbsolute
  cases text : below.text.toList with
  | nil => rfl
  | cons character rest =>
      by_cases slash : character = '/'
      · rw [text, slash, ← List.nil_append ('/' :: rest), start_append_slash] at bare
        cases bare
      · simp [List.isPrefixOf, Ne.symm slash]

/-! ## Joining -/

theorem components_join (root : Path) {below : Path}
    (bare : start below.text.toList = []) :
    (root.join below).components = root.components ++ below.components := by
  rw [join, isAbsolute_eq_false bare]
  simp only [Bool.false_eq_true, if_false, components_eq, bare, List.nil_append]
  split
  next ending =>
    simp only [String.isEmpty_iff, Bool.or_eq_true, decide_eq_true_eq] at ending
    rcases ending with empty | slash
    · have nothing : start [] = [] := rfl
      rw [empty]
      simp [nothing, bare]
    · rcases List.getLast?_eq_some_iff.mp slash with ⟨before, spelled⟩
      rw [String.toList_append, spelled, List.append_assoc, List.singleton_append,
        inner_append_slash, inner_append_slash, start_append_slash, start_append_slash,
        inner_nil, List.append_nil, List.append_assoc]
  next ending =>
    have nonempty : root.text.toList ≠ [] := by
      intro empty
      exact ending (by simp [String.toList_eq_nil_iff.mp empty])
    have spelled : (root.text ++ "/" ++ below.text).toList =
        root.text.toList ++ '/' :: below.text.toList := by
      simp [String.toList_append]
    rw [spelled, inner_append_slash, start_append_slash, if_neg nonempty, List.append_assoc]

end PageTemplates.Path
