import PageTemplates.Text.Blank
import PageTemplates.Text.Split

/-! # Pieces of a source

A source is cut into verbatim text and tags. A tag runs from an opening mark, two
braces, to a closing mark. Its content holds at least one character after the leading
blanks, so a closing mark directly after them is content if another one follows. An
opening mark that is never closed makes the rest of the source text.
-/

namespace PageTemplates

/-- A part of a source: the text that it spans, and of a tag also its code, the content
between blanks. -/
inductive Piece
  | text (span : List Char)
  | tag (span code : List Char)
  deriving Repr, DecidableEq

namespace Piece

def opening : List Char := "\x7b\x7b".toList

def closing : List Char := "\x7d\x7d".toList

def span : Piece → List Char
  | text span => span
  | tag span _ => span

/-- The text up to the first opening mark, and the source from there on. -/
def cutOpening : List Char → List Char × List Char
  | [] => ([], [])
  | character :: rest =>
      if opening.isPrefixOf (character :: rest) then
        ([], character :: rest)
      else
        let (before, tail) := cutOpening rest
        (character :: before, tail)

/-- Cut what follows an opening mark at the mark that closes the tag: the content of
the tag and what follows it. Where no mark closes a content that has a character
besides leading blanks, blanks alone are content too. -/
def cutClosing? (inner : List Char) : Option (List Char × List Char) :=
  let blanks := inner.takeWhile Text.isBlank
  match inner.dropWhile Text.isBlank with
  | [] => none
  | first :: rest =>
      match Text.cutAt closing rest with
      | some (content, after) => some (blanks ++ first :: content, after)
      | none =>
          if !blanks.isEmpty && closing.isPrefixOf (first :: rest) then
            some (blanks, (first :: rest).drop closing.length)
          else
            none

example : cutClosing? " \x7d\x7d\x7d-".toList = some (" \x7d".toList, "-".toList) := by decide

example : cutClosing? " \x7d\x7d-".toList = some (" ".toList, "-".toList) := by decide

example : cutClosing? "\x7d\x7d-".toList = none := by decide

/-- The first piece of a source, and the source after it. -/
def first (source : List Char) : Piece × List Char :=
  if opening.isPrefixOf source then
    match cutClosing? (source.drop opening.length) with
    | some (content, rest) => (tag (opening ++ content ++ closing) (Text.trim content), rest)
    | none => (text source, [])
  else
    let (before, rest) := cutOpening source
    (text before, rest)

/-! ## Nothing is lost -/

@[simp]
theorem cutOpening_append (source : List Char) :
    (cutOpening source).1 ++ (cutOpening source).2 = source := by
  induction source with
  | nil => rfl
  | cons character rest induction =>
      rw [cutOpening]
      split
      · rfl
      · simpa using induction

theorem append_of_cutClosing? {inner content after : List Char}
    (cut : cutClosing? inner = some (content, after)) :
    content ++ closing ++ after = inner := by
  have whole := List.takeWhile_append_dropWhile (p := Text.isBlank) (l := inner)
  simp only [cutClosing?] at cut
  split at cut
  · cases cut
  next first rest trimmed =>
    rw [trimmed] at whole
    split at cut
    next before tail found =>
      simp only [Option.some.injEq, Prod.mk.injEq] at cut
      rw [← Text.append_of_cutAt found] at whole
      rw [← cut.1, ← cut.2]
      simpa using whole
    next =>
      split at cut
      next closed =>
        simp only [Option.some.injEq, Prod.mk.injEq] at cut
        simp only [Bool.and_eq_true] at closed
        rw [← cut.1, ← cut.2, List.append_assoc, Text.append_of_isPrefixOf closed.2]
        exact whole
      next => cases cut

/-- The first piece and the source after it are the source. -/
@[simp]
theorem first_append (source : List Char) :
    (first source).1.span ++ (first source).2 = source := by
  simp only [first]
  split
  next opens =>
    split
    next content rest cut =>
      simp only [span, List.append_assoc]
      rw [← List.append_assoc content, append_of_cutClosing? cut]
      exact Text.append_of_isPrefixOf opens
    next => simp [span]
  next => exact cutOpening_append source

theorem span_first_ne_nil {source : List Char} (nonempty : source ≠ []) :
    (first source).1.span ≠ [] := by
  simp only [first]
  split
  · split
    · simp [span, opening]
    · simpa [span] using nonempty
  next closed =>
    cases source with
    | nil => exact absurd rfl nonempty
    | cons character rest =>
        simp only [cutOpening]
        rw [if_neg closed]
        simp [span]

theorem length_first_lt {source : List Char} (nonempty : source ≠ []) :
    (first source).2.length < source.length := by
  have whole := congrArg List.length (first_append source)
  have positive := List.length_pos_iff.mpr (span_first_ne_nil nonempty)
  rw [List.length_append] at whole
  omega

def all (source : List Char) : List Piece :=
  if _ : source = [] then
    []
  else
    (first source).1 :: all (first source).2
termination_by source.length
decreasing_by exact length_first_lt (by assumption)

example : all "a \x7b\x7b b \x7d\x7d\x7b\x7bc".toList =
    [text "a ".toList, tag "\x7b\x7b b \x7d\x7d".toList "b".toList,
      text "\x7b\x7bc".toList] := by decide +kernel

end Piece

end PageTemplates
