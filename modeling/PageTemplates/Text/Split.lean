/-! # Cutting texts -/

namespace PageTemplates.Text

/-- The parts between the occurrences of `separator`: one more than it occurs, some
perhaps empty. -/
def splitAt (separator : Char) : List Char → List (List Char)
  | [] => [[]]
  | character :: rest =>
      if character = separator then
        [] :: splitAt separator rest
      else
        match splitAt separator rest with
        | [] => [[character]]
        | part :: parts => (character :: part) :: parts

example : splitAt '.' "a..b".toList = ["a".toList, [], "b".toList] := by decide

/-- Cut a text at the first place where `mark` stands: what precedes the mark and
what follows it. -/
def cutAt (mark : List Char) : List Char → Option (List Char × List Char)
  | [] => if mark.isEmpty then some ([], []) else none
  | character :: rest =>
      if mark.isPrefixOf (character :: rest) then
        some ([], (character :: rest).drop mark.length)
      else
        (cutAt mark rest).map fun (before, after) => (character :: before, after)

example : cutAt "-->".toList "a-->b-->".toList = some ("a".toList, "b-->".toList) := by decide

theorem append_of_isPrefixOf {mark text : List Char}
    (isPrefix : mark.isPrefixOf text = true) :
    mark ++ text.drop mark.length = text := by
  obtain ⟨rest, equal⟩ := List.isPrefixOf_iff_prefix.mp isPrefix
  simp [← equal]

theorem append_of_cutAt {mark text before after : List Char}
    (cut : cutAt mark text = some (before, after)) :
    before ++ mark ++ after = text := by
  induction text generalizing before with
  | nil =>
      simp only [cutAt] at cut
      split at cut <;> simp_all
  | cons character text induction =>
      simp only [cutAt] at cut
      split at cut
      next isPrefix =>
        simp only [Option.some.injEq, Prod.mk.injEq] at cut
        rw [← cut.1, ← cut.2]
        exact append_of_isPrefixOf isPrefix
      next =>
        obtain ⟨⟨inner, rest⟩, found, equal⟩ := Option.map_eq_some_iff.mp cut
        simp only [Prod.mk.injEq] at equal
        rw [← equal.1]
        simpa using induction (equal.2 ▸ found)

theorem length_le_of_cutAt {mark text before after : List Char}
    (cut : cutAt mark text = some (before, after)) : after.length ≤ text.length := by
  rw [← append_of_cutAt cut, List.length_append]
  omega

def occurs (mark text : List Char) : Bool :=
  (cutAt mark text).isSome

end PageTemplates.Text
