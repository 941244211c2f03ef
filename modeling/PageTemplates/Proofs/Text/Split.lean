import PageTemplates.Text.Split

/-! # The parts of a cut text

`splitAt` cuts as `List.splitOn` of the standard library does, so the laws of the latter
are its laws too. `cutAt` cuts at the first place of a mark, if the mark stands anywhere.
-/

namespace PageTemplates.Text

theorem splitAt_eq_splitOn (separator : Char) (text : List Char) :
    splitAt separator text = text.splitOn separator := by
  induction text with
  | nil => simp [splitAt]
  | cons character rest induction =>
      rw [splitAt, List.splitOn_cons_eq_if_modifyHead, ← induction]
      by_cases same : character = separator
      · simp [same]
      · have nonempty : splitAt separator rest ≠ [] :=
          induction ▸ List.splitOn_ne_nil separator rest
        rcases List.exists_cons_of_ne_nil nonempty with ⟨first, parts, cut⟩
        simp [same, cut]

@[simp]
theorem splitAt_append_cons (separator : Char) (left right : List Char) :
    splitAt separator (left ++ separator :: right) =
      splitAt separator left ++ splitAt separator right := by
  simp only [splitAt_eq_splitOn, List.splitOn_append_cons_self]

theorem splitAt_of_not_mem {separator : Char} {text : List Char}
    (absent : separator ∉ text) : splitAt separator text = [text] := by
  rw [splitAt_eq_splitOn, List.splitOn_eq_singleton absent]

theorem exists_splitAt_eq_cons (separator : Char) (text : List Char) :
    ∃ first parts, splitAt separator text = first :: parts :=
  List.exists_cons_of_ne_nil
    (splitAt_eq_splitOn separator text ▸ List.splitOn_ne_nil separator text)

theorem splitAt_cons_of_ne {separator character : Char} (other : character ≠ separator)
    {rest part : List Char} {parts : List (List Char)}
    (cut : splitAt separator rest = part :: parts) :
    splitAt separator (character :: rest) = (character :: part) :: parts := by
  rw [splitAt, if_neg other, cut]

/-- The first part ends before the first separator. -/
theorem head?_splitAt (separator : Char) (text : List Char) :
    (splitAt separator text).head? = some (text.takeWhile (· ≠ separator)) := by
  induction text with
  | nil => rfl
  | cons character rest induction =>
      by_cases same : character = separator
      · simp [splitAt, same]
      · rcases exists_splitAt_eq_cons separator rest with ⟨first, parts, cut⟩
        rw [cut, List.head?_cons, Option.some.injEq] at induction
        rw [splitAt_cons_of_ne same cut, List.head?_cons, List.takeWhile_cons_of_pos (by simpa),
          induction]

theorem sublist_of_mem_splitAt {separator : Char} {text part : List Char}
    (member : part ∈ splitAt separator text) : part.Sublist text := by
  induction text generalizing part with
  | nil => simp_all [splitAt]
  | cons character rest induction =>
      by_cases same : character = separator
      · rw [splitAt, if_pos same, List.mem_cons] at member
        rcases member with rfl | member
        · exact List.nil_sublist _
        · exact (induction member).cons character
      · rcases exists_splitAt_eq_cons separator rest with ⟨first, parts, cut⟩
        rw [splitAt_cons_of_ne same cut, List.mem_cons] at member
        rw [cut] at induction
        rcases member with rfl | member
        · exact (induction List.mem_cons_self).cons_cons character
        · exact (induction (List.mem_cons_of_mem _ member)).cons character

theorem not_mem_of_mem_splitAt {separator : Char} {text part : List Char}
    (member : part ∈ splitAt separator text) : separator ∉ part := by
  induction text generalizing part with
  | nil => simp_all [splitAt]
  | cons character rest induction =>
      by_cases same : character = separator
      · rw [splitAt, if_pos same, List.mem_cons] at member
        rcases member with rfl | member
        · exact List.not_mem_nil
        · exact induction member
      · rcases exists_splitAt_eq_cons separator rest with ⟨first, parts, cut⟩
        rw [splitAt_cons_of_ne same cut, List.mem_cons] at member
        rw [cut] at induction
        rcases member with rfl | member
        · exact List.not_mem_cons_of_ne_of_not_mem (Ne.symm same) (induction List.mem_cons_self)
        · exact induction (List.mem_cons_of_mem _ member)

/-- The parts of a text are those without the separator that give it back when they are
joined by it. -/
theorem splitAt_eq_iff {separator : Char} {text : List Char} {parts : List (List Char)} :
    splitAt separator text = parts ↔
      parts ≠ [] ∧ [separator].intercalate parts = text ∧ ∀ part ∈ parts, separator ∉ part := by
  constructor
  · rintro rfl
    refine ⟨?_, ?_, fun part => not_mem_of_mem_splitAt⟩
    · exact splitAt_eq_splitOn separator text ▸ List.splitOn_ne_nil separator text
    · rw [splitAt_eq_splitOn, List.intercalate_splitOn]
  · rintro ⟨nonempty, rfl, apart⟩
    rw [splitAt_eq_splitOn, List.splitOn_intercalate separator apart nonempty]

/-! ## The first place of a mark -/

theorem cutAt_of_isPrefixOf {mark text : List Char} (nonempty : mark ≠ [])
    (stands : mark.isPrefixOf text = true) :
    cutAt mark text = some ([], text.drop mark.length) := by
  cases text with
  | nil => simp_all
  | cons character rest => rw [cutAt, if_pos stands]

theorem cutAt_cons_of_not_isPrefixOf {mark : List Char} {character : Char} {rest : List Char}
    (absent : mark.isPrefixOf (character :: rest) = false) :
    cutAt mark (character :: rest) =
      (cutAt mark rest).map fun (before, after) => (character :: before, after) := by
  rw [cutAt, if_neg (by simp [absent])]

/-- A mark does not begin among characters that are none of its own first ones. -/
theorem cutAt_append {first : Char} {mark before : List Char} (absent : first ∉ before)
    (text : List Char) :
    cutAt (first :: mark) (before ++ text) =
      (cutAt (first :: mark) text).map fun (inner, after) => (before ++ inner, after) := by
  induction before with
  | nil => cases cut : cutAt (first :: mark) text <;> simp [cut]
  | cons character before induction =>
      rw [List.mem_cons, not_or] at absent
      have other : (first :: mark).isPrefixOf (character :: (before ++ text)) = false := by
        simp [List.isPrefixOf, absent.1]
      rw [List.cons_append, cutAt_cons_of_not_isPrefixOf other, induction absent.2,
        Option.map_map]
      rfl

theorem isSome_cutAt {mark : List Char} (nonempty : mark ≠ []) (before after : List Char) :
    (cutAt mark (before ++ (mark ++ after))).isSome = true := by
  induction before with
  | nil =>
      rw [List.nil_append, cutAt_of_isPrefixOf nonempty (by simp [List.isPrefixOf_iff_prefix])]
      rfl
  | cons character before induction =>
      rw [List.cons_append, cutAt]
      split
      · rfl
      · rwa [Option.isSome_map]

/-- A mark stands nowhere in what precedes its first place. -/
theorem not_infix_of_cutAt {mark text before after : List Char} (nonempty : mark ≠ [])
    (cut : cutAt mark text = some (before, after)) : ¬ mark <:+: before := by
  induction text generalizing before with
  | nil => simp [cutAt, nonempty] at cut
  | cons character rest induction =>
      rw [cutAt] at cut
      split at cut
      next =>
        cases cut
        simpa using nonempty
      next absent =>
        rcases Option.map_eq_some_iff.mp cut with ⟨⟨inner, tail⟩, found, equal⟩
        cases equal
        have whole : inner ++ mark ++ after = rest := append_of_cutAt found
        rw [List.infix_cons_iff]
        rintro (stands | inside)
        · refine absent (List.isPrefixOf_iff_prefix.mpr (stands.trans ?_))
          exact ⟨mark ++ after, by rw [← whole, List.cons_append, List.append_assoc]⟩
        · exact induction found inside

end PageTemplates.Text
