import Mathlib.Data.List.Chain
import PageTemplates.Proofs.Template.Delimiters

/-! # Texts of a template

The texts of a compiled source stand apart from one another: between two of them there is a
segment that a tag became. None is empty, and each is the whole of the template that it
compiles to by itself, since no tag can be found in it.
-/

namespace PageTemplates.Template

open Piece (all all_nil all_of_ne_nil cutOpening opening tagPattern tagsFrom)
open Text (trim)

/-- Take pieces off the front of a source until nothing is left. -/
inductive Popped : List Char → List Piece → Prop
  | nil : Popped [] []
  | pop {source : List Char} {pieces : List Piece} (nonempty : source ≠ [])
      (rest : Popped (Piece.first source).2 pieces) :
      Popped source ((Piece.first source).1 :: pieces)

theorem popped_all (source : List Char) : Popped source (all source) := by
  induction source using Piece.all.induct with
  | case1 =>
      rw [all_nil]
      exact .nil
  | case2 source nonempty induction =>
      rw [all_of_ne_nil nonempty]
      exact .pop nonempty induction

/-! ## The segments of a source -/

/-- The source is one text, also when it is compiled by itself. -/
def IsText (source : List Char) : Prop :=
  segmentsOf (all source) = [.text (String.ofList source)]

theorem ofCode_ne_text (code : List Char) (content : String) :
    Segment.ofCode code ≠ .text content := by
  rw [Segment.ofCode]
  split
  · exact nofun
  · split
    · exact nofun
    · split <;> exact nofun

theorem segmentsOf_text_ofCode (span code : List Char) (rest : List Segment)
    {pieces : List Piece} (same : segmentsOf pieces = Segment.ofCode code :: rest) :
    segmentsOf (.text span :: pieces) =
      .text (String.ofList span) :: Segment.ofCode code :: rest := by
  rw [segmentsOf, same]
  split
  next content _ equal =>
    exact absurd (List.cons.inj equal).1 (ofCode_ne_text code content)
  next => rfl

theorem cutOpening_of_not_opening {source : List Char}
    (closed : opening.isPrefixOf source = false) (nonempty : source ≠ []) :
    (cutOpening source).1 ≠ [] := by
  cases source with
  | nil => exact absurd rfl nonempty
  | cons character rest =>
      rw [cutOpening, closed]
      exact List.cons_ne_nil _ _

/-- What follows the text before the first opening mark begins with that mark. -/
theorem cutOpening_snd (source : List Char) :
    (cutOpening source).2 = [] ∨ opening.isPrefixOf (cutOpening source).2 = true := by
  induction source with
  | nil => exact .inl rfl
  | cons character rest induction =>
      rw [cutOpening]
      split
      next opens => exact .inr opens
      next => exact induction

theorem cutOpening_fst (source : List Char) :
    cutOpening (cutOpening source).1 = ((cutOpening source).1, []) := by
  induction source with
  | nil => rfl
  | cons character rest induction =>
      cases opens : opening.isPrefixOf (character :: rest) with
      | true =>
          rw [cutOpening, opens]
          rfl
      | false =>
          have kept : opening.isPrefixOf (character :: (cutOpening rest).1) = false := by
            rw [← Bool.not_eq_true, List.isPrefixOf_iff_prefix] at opens ⊢
            intro starts
            apply opens
            rw [← Piece.cutOpening_append rest, ← List.cons_append]
            exact starts.trans (List.prefix_append _ _)
          rw [cutOpening, opens]
          simp only [Bool.false_eq_true, if_false]
          rw [cutOpening, kept, induction]
          rfl

theorem isText_of_cutOpening {source : List Char} (nonempty : source ≠ [])
    (closed : opening.isPrefixOf source = false) (whole : cutOpening source = (source, [])) :
    IsText source := by
  rw [IsText, all_of_ne_nil nonempty, Piece.first, closed, whole]
  simp [segmentsOf]

theorem isText_cutOpening {source : List Char} (nonempty : (cutOpening source).1 ≠ []) :
    IsText (cutOpening source).1 := by
  have whole := cutOpening_fst source
  refine isText_of_cutOpening nonempty ?_ whole
  cases opens : opening.isPrefixOf (cutOpening source).1 with
  | false => rfl
  | true =>
      cases start : (cutOpening source).1 with
      | nil => exact absurd start nonempty
      | cons character rest =>
          rw [start] at opens whole
          rw [cutOpening, opens] at whole
          cases whole

/-- An opening mark begins a tag, or it is never closed and the source is one text. -/
theorem segmentsOf_of_opening {source : List Char}
    (opens : opening.isPrefixOf source = true) :
    IsText source ∨
      ∃ code rest, rest.length < source.length ∧
        segmentsOf (all source) = Segment.ofCode code :: segmentsOf (all rest) := by
  have nonempty : source ≠ [] := by
    rintro rfl
    cases opens
  have shorter := Piece.length_first_lt nonempty
  rw [IsText, all_of_ne_nil nonempty]
  rw [Piece.first, if_pos opens] at shorter ⊢
  split at shorter
  next content rest _ => exact .inr ⟨Text.trim content, rest, shorter, rfl⟩
  next => exact .inl (by simp [segmentsOf])

/-- The segments of a source are built from its end: a segment that a tag became is put
before them, or such a segment and a text before it, or the source is one text. -/
theorem segmentsOf_induction {motive : List Segment → Prop} (nil : motive [])
    (one : ∀ source, source ≠ [] → IsText source →
      motive [.text (String.ofList source)])
    (tag : ∀ code segments, motive segments → motive (Segment.ofCode code :: segments))
    (textTag : ∀ before code segments, before ≠ [] → IsText before → motive segments →
      motive (.text (String.ofList before) :: Segment.ofCode code :: segments))
    (source : List Char) : motive (segmentsOf (all source)) := by
  induction size : source.length using Nat.strong_induction_on generalizing source with
  | _ size induction =>
      subst size
      by_cases nonempty : source = []
      · subst nonempty
        rw [all_nil]
        exact nil
      cases opens : opening.isPrefixOf source with
      | true =>
          rcases segmentsOf_of_opening opens with isText | ⟨code, rest, shorter, same⟩
          · rw [isText]
            exact one source nonempty isText
          · rw [same]
            exact tag code _ (induction _ shorter rest rfl)
      | false =>
          have whole := Piece.cutOpening_append source
          have visible := cutOpening_of_not_opening opens nonempty
          have isText := isText_cutOpening visible
          have cut : all source =
              .text (cutOpening source).1 :: all (cutOpening source).2 := by
            rw [all_of_ne_nil nonempty, Piece.first, opens]
            rfl
          rcases cutOpening_snd source with ended | opensRest
          · rw [ended, List.append_nil] at whole
            rw [whole] at isText
            rw [isText]
            exact one source nonempty isText
          rcases segmentsOf_of_opening opensRest with isTextRest | ⟨code, rest, shorter, same⟩
          · -- The mark is never closed, and its text is joined to the one before it.
            have joined : IsText source := by
              rw [IsText, cut, segmentsOf, isTextRest]
              simp only [← String.ofList_append, whole]
            rw [joined]
            exact one source nonempty joined
          · have less : rest.length < source.length := by
              have lengths := congrArg List.length whole
              rw [List.length_append] at lengths
              omega
            rw [cut, segmentsOf_text_ofCode _ _ _ same]
            exact textTag _ code _ visible isText (induction _ less rest rfl)

/-- No two texts side by side. -/
def Apart (first second : Segment) : Prop :=
  ∀ before after, ¬ (first = .text before ∧ second = .text after)

theorem isChain_segmentsOf (source : List Char) :
    (segmentsOf (all source)).IsChain Apart := by
  have behind (code : List Char) (segments : List Segment) (chain : segments.IsChain Apart) :
      (Segment.ofCode code :: segments).IsChain Apart :=
    List.isChain_cons.mpr
      ⟨fun _ _ before _ equal => ofCode_ne_text code before equal.1, chain⟩
  refine segmentsOf_induction .nil (fun _ _ _ => .singleton _) behind ?_ source
  intro before code segments _ _ chain
  exact .cons_cons (fun _ after equal => ofCode_ne_text code after equal.2)
    (behind code segments chain)

/-- A text that is the whole of the template that it compiles to. -/
def Alone (content : String) : Prop :=
  content ≠ "" ∧ compile content = ⟨[.text content]⟩

theorem alone_of_isText {text : List Char} (nonempty : text ≠ []) (isText : IsText text) :
    Alone (String.ofList text) := by
  rw [Alone, compile, String.toList_ofList, isText]
  exact ⟨fun empty => nonempty (String.ofList_injective empty), rfl⟩

theorem alone_of_mem_segmentsOf (source : List Char) :
    ∀ content, .text content ∈ segmentsOf (all source) → Alone content := by
  apply segmentsOf_induction (motive := fun segments =>
    ∀ content, .text content ∈ segments → Alone content)
  case nil =>
    intro content member
    cases member
  case one =>
    intro text nonempty isText content member
    rw [Segment.text.inj (List.mem_singleton.mp member)]
    exact alone_of_isText nonempty isText
  case tag =>
    intro code segments induction content member
    rcases List.mem_cons.mp member with equal | member
    · exact absurd equal.symm (ofCode_ne_text code content)
    · exact induction content member
  case textTag =>
    intro before code segments nonempty isText induction content member
    rcases List.mem_cons.mp member with equal | member
    · rw [Segment.text.inj equal]
      exact alone_of_isText nonempty isText
    rcases List.mem_cons.mp member with equal | member
    · exact absurd equal.symm (ofCode_ne_text code content)
    · exact induction content member

/-! ## The pieces of a source -/

/-- Taking pieces off a source takes some of the source every time and ends with nothing
lost. The tags among the pieces are the successive matches of the pattern of a tag, each
with the captured content between blanks as its code, and where an opening mark begins no
match none that follows it does. The texts of the template are not empty, do not stand side
by side, and are texts alone. -/
theorem pieces_are_matches (source : String) :
    Popped source.toList (all source.toList) ∧
      (∀ left, left ≠ [] →
        (Piece.first left).1.span ≠ [] ∧
          (Piece.first left).1.span ++ (Piece.first left).2 = left) ∧
      (all source.toList).flatMap Piece.span = source.toList ∧
      tagsFrom 0 (all source.toList) =
        (tagPattern.matchesFrom 0 source.toList).map
          (fun (start, way) => (start, way.taken, trim way.captured)) ∧
      (∀ unclosed later, unclosed <:+ source.toList → opening <+: unclosed →
        tagPattern.match? unclosed = none → later <:+ unclosed →
        tagPattern.match? later = none) ∧
      (∀ before first second after, (compile source).segments ≠
        before ++ .text first :: .text second :: after) ∧
      (∀ content, .text content ∈ (compile source).segments →
        content ≠ "" ∧ compile content = ⟨[.text content]⟩) := by
  refine ⟨popped_all _, ?_, Piece.flatMap_span_all _, Piece.tagsFrom_all 0 _, ?_, ?_, ?_⟩
  · intro left nonempty
    exact ⟨Piece.span_first_ne_nil nonempty, Piece.first_append left⟩
  · intro unclosed later _ opens absent ends
    exact Piece.match?_eq_none_of_suffix opens absent ends
  · intro before first second after equal
    have chain : (before ++ .text first :: .text second :: after).IsChain Apart := by
      rw [← equal]
      exact isChain_segmentsOf source.toList
    have tail := (List.isChain_append.mp chain).2.1
    exact (List.isChain_cons_cons.mp tail).1 first second ⟨rfl, rfl⟩
  · intro content member
    exact alone_of_mem_segmentsOf source.toList content member

/-- A closing mark that is content, and an opening mark that is never closed. -/
theorem pieces_are_matches_unclosed :
    tagsFrom 0 (all "a\x7b\x7b \x7d\x7dx\x7d\x7d!\x7b\x7b b".toList) =
      [(1, "\x7b\x7b \x7d\x7dx\x7d\x7d".toList, "\x7d\x7dx".toList)] ∧
    (∀ later, later <:+ "\x7b\x7b b".toList → tagPattern.match? later = none) ∧
    ∀ content,
      .text content ∈ (compile "a\x7b\x7b \x7d\x7dx\x7d\x7d!\x7b\x7b b").segments →
        compile content = ⟨[.text content]⟩ := by
  have facts := pieces_are_matches "a\x7b\x7b \x7d\x7dx\x7d\x7d!\x7b\x7b b"
  rcases facts with ⟨_, _, _, tags, unclosed, _, texts⟩
  refine ⟨?_, ?_, fun content member => (texts content member).2⟩
  · rw [tags]
    decide +kernel
  · intro later ends
    exact unclosed _ later (by decide) (by decide) (by decide) ends

end PageTemplates.Template
