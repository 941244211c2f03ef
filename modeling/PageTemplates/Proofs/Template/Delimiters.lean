import PageTemplates.Proofs.Text.Blank
import PageTemplates.Proofs.Text.Pattern
import PageTemplates.Proofs.Text.Split
import PageTemplates.Template

/-! # Tags as matches of a pattern

The pieces of a source are cut without backtracking, by looking for a closing mark once.
They are nevertheless the matches of a pattern that is matched with backtracking: the same
tags at the same places, with the same code. An opening mark that is never closed ends the
search, and rightly so, since no opening mark after it is closed either.
-/

namespace PageTemplates.Piece

open Text (Pattern Blanks isBlank trim trimEnd cutAt)

def closingPattern : Pattern :=
  .sequence (.most isBlank) (.word closing)

/-- Any characters, at least one, up to the blanks before a closing mark. -/
def contentPattern : Pattern :=
  .sequence (.captured (.fewest fun _ => true)) closingPattern

/-- A tag: an opening mark, blanks, the content with one character or more, blanks and a
closing mark. As many of the first blanks as possible are no content, and the content is as
short as possible. -/
def tagPattern : Pattern :=
  .sequence (.word opening) (.sequence (.most isBlank) contentPattern)

example : tagPattern.match? "\x7b\x7b a \x7d\x7d\x7d".toList =
    some ⟨"\x7b\x7b a \x7d\x7d".toList, "a".toList, "\x7d".toList⟩ := by decide

def trimmed (way : Pattern.Way) : List Char × List Char × List Char :=
  (way.taken, trim way.captured, way.rest)

/-! ## Closing marks -/

theorem closing_isPrefixOf_cons_of_blank {character : Char} (blank : isBlank character = true)
    (rest : List Char) : closing.isPrefixOf (character :: rest) = false := by
  have other : '\x7d' ≠ character := by
    rintro rfl
    cases blank
  simp [closing, List.isPrefixOf, other]

theorem match?_word_closing (source : List Char) :
    (Pattern.word closing).match? source =
      if closing.isPrefixOf source then some ⟨closing, [], source.drop closing.length⟩
      else none := by
  simp only [Pattern.match?, Pattern.ways]
  split <;> rfl

theorem match?_closingPattern (source : List Char) :
    closingPattern.match? source =
      if closing.isPrefixOf (source.dropWhile isBlank) then
        some ⟨source.takeWhile isBlank ++ closing, [],
          (source.dropWhile isBlank).drop closing.length⟩
      else
        none := by
  induction source with
  | nil => rfl
  | cons character rest induction =>
      rw [closingPattern, Pattern.match?_most_cons, match?_word_closing, ← closingPattern,
        induction]
      by_cases blank : isBlank character = true
      · rw [List.dropWhile_cons_of_pos blank, List.takeWhile_cons_of_pos blank, if_pos blank,
          closing_isPrefixOf_cons_of_blank blank, if_neg Bool.false_ne_true, Option.or_none]
        split <;> rfl
      · rw [List.dropWhile_cons_of_neg blank, List.takeWhile_cons_of_neg blank, if_neg blank]
        rfl

theorem cutAt_blanks {blanks : List Char} (blank : Blanks blanks) (text : List Char) :
    cutAt closing (blanks ++ text) =
      (cutAt closing text).map fun (before, after) => (blanks ++ before, after) := by
  refine Text.cutAt_append (fun member => ?_) text
  have isBlank := blank '\x7d' member
  cases isBlank

theorem blanks_takeWhile (source : List Char) : Blanks (source.takeWhile isBlank) :=
  fun _ => List.mem_takeWhile_imp

/-! ## Contents -/

/-- The content ends where the first closing mark is that leaves it a character, or where
the blanks before that mark begin. -/
theorem match?_contentPattern (character : Char) (rest : List Char) :
    contentPattern.match? (character :: rest) =
      (cutAt closing rest).map fun (before, after) =>
        ⟨character :: before ++ closing, character :: trimEnd before, after⟩ := by
  induction rest generalizing character with
  | nil => rfl
  | cons next rest induction =>
      rw [contentPattern, Pattern.match?_fewest_cons, ← contentPattern, induction,
        match?_closingPattern]
      have whole := List.takeWhile_append_dropWhile (p := isBlank) (l := next :: rest)
      have blank := blanks_takeWhile (next :: rest)
      split
      next closes =>
        rw [← whole, cutAt_blanks blank, Text.cutAt_of_isPrefixOf (by decide) closes]
        simp [Pattern.Way.andThen, Text.trimEnd_eq_nil_iff.mpr blank, whole]
      next open_ =>
        -- Were all blank up to the mark, the shorter content would have been found.
        have absent : closing.isPrefixOf (next :: rest) = false := by
          rw [← Bool.not_eq_true]
          intro stands
          have visible : ¬ isBlank next = true := by
            intro blank
            rw [closing_isPrefixOf_cons_of_blank blank] at stands
            cases stands
          rw [List.dropWhile_cons_of_neg visible] at open_
          exact open_ stands
        rw [Text.cutAt_cons_of_not_isPrefixOf absent, Option.map_none, Option.none_or,
          Option.map_map, Option.map_map]
        cases cut : cutAt closing rest with
        | none => rfl
        | some found =>
            rcases found with ⟨before, after⟩
            have visible : ¬ Blanks (next :: before) := by
              intro blank
              apply open_
              rw [← Text.append_of_cutAt cut, List.append_assoc, ← List.cons_append,
                List.dropWhile_append_of_pos blank]
              rfl
            simp [Pattern.Way.andThen, Text.trimEnd_cons visible]

theorem trimmed_contentPattern (character : Char) (rest : List Char) :
    (contentPattern.match? (character :: rest)).map trimmed =
      (cutAt closing rest).map fun (before, after) =>
        (character :: before ++ closing, trim (character :: before), after) := by
  rw [match?_contentPattern, Option.map_map]
  congr 1
  funext cut
  rcases cut with ⟨before, after⟩
  rcases Text.exists_eq_trimEnd_append before with ⟨blanks, whole, blank⟩
  have same : trim (character :: trimEnd before) = trim (character :: before) := by
    conv => rhs; rw [whole, ← List.cons_append, Text.trim_append_blanks _ blank]
  simp only [Function.comp_apply, trimmed, same]

def prepend (character : Char) (cut : List Char × List Char) : List Char × List Char :=
  (character :: cut.1, cut.2)

theorem cutClosing?_cons_of_visible {character : Char}
    (visible : ¬ isBlank character = true) (rest : List Char) :
    cutClosing? (character :: rest) = (cutAt closing rest).map (prepend character) := by
  rw [cutClosing?]
  simp only [List.takeWhile_cons_of_neg visible, List.dropWhile_cons_of_neg visible]
  cases cutAt closing rest <;> rfl

/-- A first blank is content only where nothing after it makes a content. -/
theorem cutClosing?_cons_of_blank {character : Char} (blank : isBlank character = true)
    (rest : List Char) :
    cutClosing? (character :: rest) =
      ((cutClosing? rest).map (prepend character)).or
        ((cutAt closing rest).map (prepend character)) := by
  have whole := List.takeWhile_append_dropWhile (p := isBlank) (l := rest)
  have blanks := blanks_takeWhile rest
  have cutRest : cutAt closing rest =
      (cutAt closing (rest.dropWhile isBlank)).map
        fun (before, after) => (rest.takeWhile isBlank ++ before, after) := by
    rw [← cutAt_blanks blanks, whole]
  rw [cutRest]
  simp only [cutClosing?, List.takeWhile_cons_of_pos blank, List.dropWhile_cons_of_pos blank]
  cases tail : rest.dropWhile isBlank with
  | nil => rfl
  | cons first more =>
      dsimp only
      cases cut : cutAt closing more with
      | some found => rfl
      | none =>
          dsimp only
          cases stands : closing.isPrefixOf (first :: more) with
          | false => simp [Text.cutAt_cons_of_not_isPrefixOf stands, cut]
          | true =>
              rw [Text.cutAt_of_isPrefixOf (by decide) stands]
              cases rest.takeWhile isBlank <;> simp [prepend]

/-- What a tag with this content takes after its opening mark, its code, and what follows
it. -/
def closed (cut : List Char × List Char) : List Char × List Char × List Char :=
  (cut.1 ++ closing, trim cut.1, cut.2)

theorem trimmed_inside (inner : List Char) :
    ((Pattern.sequence (.most isBlank) contentPattern).match? inner).map trimmed =
      (cutClosing? inner).map closed := by
  have content (character : Char) (rest : List Char) :
      (contentPattern.match? (character :: rest)).map trimmed =
        ((cutAt closing rest).map (prepend character)).map closed := by
    rw [trimmed_contentPattern, Option.map_map]
    rfl
  induction inner with
  | nil => rfl
  | cons character rest induction =>
      rw [Pattern.match?_most_cons]
      by_cases blank : isBlank character = true
      · let extend (found : List Char × List Char × List Char) :=
          (character :: found.1, found.2)
        have taken : trimmed ∘ Pattern.Way.andThen ⟨[character], [], rest⟩ =
            extend ∘ trimmed := rfl
        have kept : closed ∘ prepend character = extend ∘ closed := by
          funext cut
          simp [closed, prepend, extend, Text.trim_cons_of_blank blank]
        rw [if_pos blank, cutClosing?_cons_of_blank blank, Option.map_or, Option.map_or,
          content, Option.map_map, taken, ← Option.map_map, induction, Option.map_map,
          Option.map_map, Option.map_map, kept]
      · rw [if_neg blank, cutClosing?_cons_of_visible blank, content]

/-- A match where a source begins is the first piece of the source, if that is a tag. -/
theorem trimmed_tagPattern (source : List Char) :
    (tagPattern.match? source).map trimmed =
      match first source with
      | (tag span code, rest) => some (span, code, rest)
      | (text _, _) => none := by
  rw [tagPattern, Pattern.match?_word, first]
  split
  next opens =>
    have inside := trimmed_inside (source.drop opening.length)
    let extend (found : List Char × List Char × List Char) := (opening ++ found.1, found.2)
    have taken : trimmed ∘ Pattern.Way.andThen ⟨opening, [], source.drop opening.length⟩ =
        extend ∘ trimmed := rfl
    rw [Option.map_map, taken, ← Option.map_map, inside]
    cases cutClosing? (source.drop opening.length) with
    | none => rfl
    | some cut => simp [closed, extend]
  next => rfl

theorem match?_of_not_opening {source : List Char}
    (closed : opening.isPrefixOf source = false) : tagPattern.match? source = none := by
  rw [tagPattern, Pattern.match?_word, closed]
  rfl

theorem match?_eq_none_iff {inner : List Char} :
    tagPattern.match? (opening ++ inner) = none ↔ cutClosing? inner = none := by
  rw [← Option.map_eq_none_iff (f := trimmed), trimmed_tagPattern, first,
    if_pos (by simp [List.isPrefixOf_iff_prefix]), List.drop_left]
  cases cutClosing? inner <;> simp

/-! ## Behind an unclosed mark -/

/-- A brace is a content that a later mark closes, if nothing before it is one. -/
theorem isSome_cutClosing? (before inner after : List Char) :
    (cutClosing? (before ++ '\x7b' :: (inner ++ (closing ++ after)))).isSome = true := by
  have brace : isBlank '\x7b' = false := by decide
  have visible : ∃ character more,
      (before ++ '\x7b' :: (inner ++ (closing ++ after))).dropWhile isBlank =
        character :: (more ++ (closing ++ after)) := by
    rw [List.dropWhile_append]
    split
    · exact ⟨'\x7b', inner, by simp [brace]⟩
    next kept =>
      have nonempty : before.dropWhile isBlank ≠ [] :=
        fun empty => kept (List.isEmpty_iff.mpr empty)
      rcases List.exists_cons_of_ne_nil nonempty with ⟨character, more, equal⟩
      exact ⟨character, more ++ '\x7b' :: inner, by simp [equal]⟩
  rcases visible with ⟨character, more, equal⟩
  have marked : closing ≠ [] := by decide
  have cut := Text.isSome_cutAt marked more after
  rcases Option.isSome_iff_exists.mp cut with ⟨found, equalCut⟩
  simp [cutClosing?, equal, equalCut]

/-- If an opening mark is not closed, no opening mark after it is. -/
theorem match?_eq_none_of_suffix {source later : List Char}
    (opens : opening <+: source) (unclosed : tagPattern.match? source = none)
    (ends : later <:+ source) : tagPattern.match? later = none := by
  rcases opens with ⟨inner, rfl⟩
  rw [match?_eq_none_iff] at unclosed
  rcases ends with ⟨before, whole⟩
  cases opensLater : opening.isPrefixOf later with
  | false => exact match?_of_not_opening opensLater
  | true =>
      rcases List.isPrefixOf_iff_prefix.mp opensLater with ⟨innerLater, rfl⟩
      rw [match?_eq_none_iff]
      cases cut : cutClosing? innerLater with
      | none => rfl
      | some found =>
          -- What closes the later mark closes a content of the first one as well.
          rcases found with ⟨content, after⟩
          have parts := append_of_cutClosing? cut
          rw [List.append_assoc] at parts
          rw [← parts] at whole
          have closed : (cutClosing? inner).isSome = true := by
            rcases before with - | ⟨one, - | ⟨two, before⟩⟩
            · rw [List.nil_append] at whole
              rw [← List.append_cancel_left whole, parts, cut]
              rfl
            · have same : '\x7b' :: (content ++ (closing ++ after)) = inner := by
                simpa [opening] using congrArg (List.drop 2) whole
              rw [← same]
              exact isSome_cutClosing? [] content after
            · have same : before ++ '\x7b' :: ('\x7b' :: content ++ (closing ++ after)) =
                  inner := by
                simpa [opening] using congrArg (List.drop 2) whole
              rw [← same]
              exact isSome_cutClosing? before ('\x7b' :: content) after
          rw [unclosed] at closed
          cases closed

/-! ## Successive tags -/

/-- The tags among pieces: the offset at which each begins, its span and its code. -/
def tagsFrom (offset : Nat) : List Piece → List (Nat × List Char × List Char)
  | [] => []
  | text span :: rest => tagsFrom (offset + span.length) rest
  | tag span code :: rest => (offset, span, code) :: tagsFrom (offset + span.length) rest

theorem all_of_ne_nil {source : List Char} (nonempty : source ≠ []) :
    all source = (first source).1 :: all (first source).2 := by
  rw [all, dif_neg nonempty]

@[simp]
theorem all_nil : all [] = [] := by
  rw [all, dif_pos rfl]

theorem flatMap_span_all (source : List Char) : (all source).flatMap span = source := by
  induction source using all.induct with
  | case1 => rw [all_nil, List.flatMap_nil]
  | case2 source nonempty induction =>
      rw [all_of_ne_nil nonempty, List.flatMap_cons, induction, first_append]

theorem matchesFrom_cutOpening (offset : Nat) (source : List Char) :
    tagPattern.matchesFrom offset source =
      tagPattern.matchesFrom (offset + (cutOpening source).1.length) (cutOpening source).2 := by
  induction source generalizing offset with
  | nil => rfl
  | cons character rest induction =>
      rw [cutOpening]
      cases opens : opening.isPrefixOf (character :: rest) with
      | true => rfl
      | false =>
          rw [Pattern.matchesFrom_cons_of_none (match?_of_not_opening opens), induction]
          simp only [Bool.false_eq_true, if_false, List.length_cons]
          congr 1
          omega

theorem tagsFrom_all (offset : Nat) (source : List Char) :
    tagsFrom offset (all source) =
      (tagPattern.matchesFrom offset source).map
        fun (start, way) => (start, way.taken, trim way.captured) := by
  induction source using all.induct generalizing offset with
  | case1 =>
      rw [all_nil, Pattern.matchesFrom]
      rfl
  | case2 source nonempty induction =>
      have shorter := length_first_lt nonempty
      have matched := trimmed_tagPattern source
      rw [all_of_ne_nil nonempty]
      cases opens : opening.isPrefixOf source with
      | false =>
          have cut : first source = (text (cutOpening source).1, (cutOpening source).2) := by
            rw [first, opens]
            rfl
          simp only [cut] at induction ⊢
          rw [tagsFrom, matchesFrom_cutOpening offset source]
          exact induction _
      | true =>
          cases piece : first source with
          | mk found rest =>
              simp only [piece] at matched shorter induction ⊢
              cases found with
              | tag span code =>
                  rcases Option.map_eq_some_iff.mp matched with ⟨way, found, view⟩
                  cases view
                  rw [tagsFrom, Pattern.matchesFrom_of_some found shorter, induction,
                    List.map_cons]
              | text span =>
                  have unclosed : tagPattern.match? source = none :=
                    Option.map_eq_none_iff.mp matched
                  have ended : rest = [] := by
                    rw [first, opens, if_pos rfl] at piece
                    split at piece <;> cases piece
                    rfl
                  rw [tagsFrom, ended, all_nil, Pattern.matchesFrom_eq_nil]
                  · rfl
                  · exact fun later ends => match?_eq_none_of_suffix
                      (List.isPrefixOf_iff_prefix.mp opens) unclosed ends

end PageTemplates.Piece
