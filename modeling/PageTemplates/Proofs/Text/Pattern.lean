import Mathlib.Data.List.Basic

/-! # Patterns

Patterns as regular expressions have them, as far as tags need them, matched with
backtracking: all the ways to match a beginning of a source are listed in the order in which
they are tried, and the first of them is the match. A search goes through a source from
left to right and goes on behind every match.
-/

namespace PageTemplates.Text

inductive Pattern
  | word (text : List Char)
  /-- As many characters of a class as possible, perhaps none. -/
  | most (accepts : Char → Bool)
  /-- As few characters of a class as possible, at least one. -/
  | fewest (accepts : Char → Bool)
  | captured (inner : Pattern)
  | sequence (first second : Pattern)

namespace Pattern

/-- A way to match a beginning of a source: what it takes, what the captured parts of the
pattern take, and what it leaves. -/
structure Way where
  taken : List Char
  captured : List Char
  rest : List Char
  deriving Repr, DecidableEq

def Way.andThen (before after : Way) : Way where
  taken := before.taken ++ after.taken
  captured := before.captured ++ after.captured
  rest := after.rest

def longestFirst (accepts : Char → Bool) : List Char → List Way
  | [] => [⟨[], [], []⟩]
  | character :: rest =>
      if accepts character then
        (longestFirst accepts rest).map (Way.andThen ⟨[character], [], rest⟩) ++
          [⟨[], [], character :: rest⟩]
      else
        [⟨[], [], character :: rest⟩]

def shortestFirst (accepts : Char → Bool) : List Char → List Way
  | [] => []
  | character :: rest =>
      if accepts character then
        ⟨[character], [], rest⟩ ::
          (shortestFirst accepts rest).map (Way.andThen ⟨[character], [], rest⟩)
      else
        []

def ways : Pattern → List Char → List Way
  | word text, source =>
      if text.isPrefixOf source then [⟨text, [], source.drop text.length⟩] else []
  | most accepts, source => longestFirst accepts source
  | fewest accepts, source => shortestFirst accepts source
  | captured inner, source =>
      (inner.ways source).map fun way => { way with captured := way.taken }
  | sequence first second, source =>
      (first.ways source).flatMap fun before => (second.ways before.rest).map before.andThen

def match? (pattern : Pattern) (source : List Char) : Option Way :=
  (pattern.ways source).head?

/-- The matches that follow one another in a source, each with its offset: the leftmost
match, and then those of what it leaves. A match that takes nothing is passed over. -/
def matchesFrom (pattern : Pattern) (offset : Nat) : List Char → List (Nat × Way)
  | [] => []
  | character :: rest =>
      match pattern.match? (character :: rest) with
      | none => matchesFrom pattern (offset + 1) rest
      | some way =>
          if _ : way.rest.length ≤ rest.length then
            (offset, way) :: matchesFrom pattern (offset + way.taken.length) way.rest
          else
            matchesFrom pattern (offset + 1) rest
termination_by source => source.length
decreasing_by all_goals simp only [List.length_cons]; omega

example :
    let pattern := sequence (most Char.isDigit)
      (sequence (captured (sequence (fewest Char.isAlpha) (fewest Char.isAlpha)))
        (most Char.isDigit))
    pattern.match? "12abcd3".toList =
      some ⟨"12ab".toList, "ab".toList, "cd3".toList⟩ := by decide

/-! ## What is tried first -/

theorem match?_sequence (first second : Pattern) (source : List Char) :
    (sequence first second).match? source =
      (first.ways source).findSome? fun before =>
        (second.match? before.rest).map before.andThen := by
  simp only [match?, ways, List.head?_flatMap, List.head?_map]

theorem match?_word (text : List Char) (second : Pattern) (source : List Char) :
    (sequence (word text) second).match? source =
      if text.isPrefixOf source then
        (second.match? (source.drop text.length)).map
          (Way.andThen ⟨text, [], source.drop text.length⟩)
      else
        none := by
  rw [match?_sequence, ways]
  split <;> simp

theorem Way.andThen_assoc (first second third : Way) :
    (first.andThen second).andThen third = first.andThen (second.andThen third) := by
  simp only [andThen, List.append_assoc]

theorem findSome?_andThen (lead : Way) (ways : List Way) (second : Pattern) :
    (ways.map lead.andThen).findSome?
        (fun before => (second.match? before.rest).map before.andThen) =
      (ways.findSome? fun before => (second.match? before.rest).map before.andThen).map
        lead.andThen := by
  rw [List.findSome?_map, List.map_findSome?]
  congr 1
  funext before
  rw [Function.comp_apply, Function.comp_apply, Option.map_map]
  congr 1
  funext after
  exact Way.andThen_assoc lead before after

theorem match?_most_cons (accepts : Char → Bool) (second : Pattern) (character : Char)
    (rest : List Char) :
    (sequence (most accepts) second).match? (character :: rest) =
      if accepts character then
        (((sequence (most accepts) second).match? rest).map
          (Way.andThen ⟨[character], [], rest⟩)).or (second.match? (character :: rest))
      else
        second.match? (character :: rest) := by
  have stop : [(⟨[], [], character :: rest⟩ : Way)].findSome?
      (fun before => (second.match? before.rest).map before.andThen) =
      second.match? (character :: rest) := by
    cases found : second.match? (character :: rest) <;> simp [found, Way.andThen]
  simp only [match?_sequence, ways, longestFirst]
  split
  -- One more character of the class is tried before the pattern goes on.
  · rw [List.findSome?_append, findSome?_andThen, stop]
  · exact stop

theorem match?_fewest_cons (second : Pattern) (character : Char) (rest : List Char) :
    (sequence (captured (fewest fun _ => true)) second).match? (character :: rest) =
      ((second.match? rest).map (Way.andThen ⟨[character], [character], rest⟩)).or
        (((sequence (captured (fewest fun _ => true)) second).match? rest).map
          (Way.andThen ⟨[character], [character], rest⟩)) := by
  simp only [match?_sequence, ways, shortestFirst, if_true, List.map_cons,
    List.findSome?_cons]
  -- The ways with more characters come after the one that captures the first alone.
  have longer : ((shortestFirst (fun _ => true) rest).map
      (Way.andThen ⟨[character], [], rest⟩)).map
        (fun way => { way with captured := way.taken }) =
      ((shortestFirst (fun _ => true) rest).map
        fun way => { way with captured := way.taken }).map
        (Way.andThen ⟨[character], [character], rest⟩) := by
    rw [List.map_map, List.map_map]
    rfl
  rw [longer, findSome?_andThen]
  cases second.match? rest <;> rfl

/-! ## Searching -/

theorem matchesFrom_of_some {pattern : Pattern} {source : List Char} {way : Way}
    (found : pattern.match? source = some way) (shorter : way.rest.length < source.length)
    (offset : Nat) :
    pattern.matchesFrom offset source =
      (offset, way) :: pattern.matchesFrom (offset + way.taken.length) way.rest := by
  cases source with
  | nil => cases shorter
  | cons character rest =>
      rw [matchesFrom, found]
      exact dif_pos (Nat.le_of_lt_succ shorter)

theorem matchesFrom_cons_of_none {pattern : Pattern} {character : Char} {rest : List Char}
    (absent : pattern.match? (character :: rest) = none) (offset : Nat) :
    pattern.matchesFrom offset (character :: rest) =
      pattern.matchesFrom (offset + 1) rest := by
  rw [matchesFrom, absent]

theorem matchesFrom_eq_nil {pattern : Pattern} {source : List Char}
    (absent : ∀ later, later <:+ source → pattern.match? later = none) (offset : Nat) :
    pattern.matchesFrom offset source = [] := by
  induction source generalizing offset with
  | nil => rw [matchesFrom]
  | cons character rest induction =>
      rw [matchesFrom_cons_of_none (absent _ List.suffix_rfl)]
      exact induction (fun later ends => absent later (ends.trans (List.suffix_cons _ _))) _

end Pattern

end PageTemplates.Text
