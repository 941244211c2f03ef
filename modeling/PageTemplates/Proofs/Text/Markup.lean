import Mathlib.Data.List.Basic
import PageTemplates.Text.Markup

/-! # Escaped text

The five replacements one after the other are a single pass that writes every character by
itself. So no markup character but the ampersand is left of a text, and an ampersand stands
only where an entity begins, which is also so where escaped texts stand side by side.
-/

namespace PageTemplates.Text

/-- The entities that escaped text is written with. -/
def entities : List (List Char) :=
  ["&amp;".toList, "&lt;".toList, "&gt;".toList, "&quot;".toList, "&#39;".toList]

/-- What is written for a character. -/
def escapeCharacter : Char → List Char
  | '&' => "&amp;".toList
  | '<' => "&lt;".toList
  | '>' => "&gt;".toList
  | '"' => "&quot;".toList
  | '\'' => "&#39;".toList
  | character => [character]

theorem replaceCharacter_append (marked : Char) (entity left right : List Char) :
    replaceCharacter marked entity (left ++ right) =
      replaceCharacter marked entity left ++ replaceCharacter marked entity right :=
  List.flatMap_append

theorem replaceCharacter_singleton (marked : Char) (entity : List Char) (character : Char) :
    replaceCharacter marked entity [character] =
      if character = marked then entity else [character] := by
  simp [replaceCharacter]

@[simp]
theorem toList_escapeMarkup (text : String) :
    (escapeMarkup text).toList = text.toList.flatMap escapeCharacter := by
  rw [escapeMarkup, String.toList_ofList]
  induction text.toList with
  | nil => rfl
  | cons character rest induction =>
      rw [List.flatMap_cons, ← induction, ← List.singleton_append]
      simp only [replaceCharacter_append]
      congr 1
      -- An entity holds none of the characters that are replaced after its own.
      unfold escapeCharacter
      split
      iterate 5 rfl
      next notAmpersand notLess notGreater notQuote notApostrophe =>
        simp only [replaceCharacter_singleton, if_neg notAmpersand, if_neg notLess,
          if_neg notGreater, if_neg notQuote, if_neg notApostrophe]

/-! ## What is left of a text -/

/-- A character stands for itself, or the entity that stands for it is written. -/
theorem escapeCharacter_cases (character : Char) :
    escapeCharacter character ∈ entities ∨
      escapeCharacter character = [character] ∧ character ∉ ['&', '<', '>', '"', '\''] := by
  unfold escapeCharacter
  split
  iterate 5 exact .inl (by decide)
  next notAmpersand notLess notGreater notQuote notApostrophe =>
    refine .inr ⟨rfl, ?_⟩
    simp only [List.mem_cons, List.not_mem_nil, or_false, not_or]
    exact ⟨notAmpersand, notLess, notGreater, notQuote, notApostrophe⟩

theorem not_mem_escapeMarkup {marked : Char} (isMarkup : marked ∈ ['<', '>', '"', '\''])
    (text : String) : marked ∉ (escapeMarkup text).toList := by
  rw [toList_escapeMarkup, List.mem_flatMap]
  rintro ⟨character, -, member⟩
  rcases escapeCharacter_cases character with entity | ⟨itself, plain⟩
  · have plain : ∀ entity ∈ entities,
        (entity.all fun other => other ∉ ['<', '>', '"', '\'']) = true := by decide
    exact of_decide_eq_true (List.all_eq_true.mp (plain _ entity) marked member) isMarkup
  · rw [itself, List.mem_singleton] at member
    subst member
    exact plain (List.mem_cons_of_mem '&' isMarkup)

/-- Every ampersand in the text begins an entity. -/
def AmpersandsEscaped (text : List Char) : Prop :=
  ∀ before after, text = before ++ '&' :: after →
    ∃ entity ∈ entities, entity <+: '&' :: after

namespace AmpersandsEscaped

theorem of_not_mem {text : List Char} (absent : '&' ∉ text) : AmpersandsEscaped text := by
  rintro before after rfl
  exact absurd (List.mem_append_right before List.mem_cons_self) absent

/-- An entity is whole in the text in which it begins, so no text that follows can break
it. -/
theorem append {left right : List Char} (first : AmpersandsEscaped left)
    (second : AmpersandsEscaped right) : AmpersandsEscaped (left ++ right) := by
  intro before after parts
  rcases List.append_eq_append_iff.mp parts with
    ⟨middle, -, follows⟩ | ⟨middle, precedes, follows⟩
  · exact second middle after follows
  · cases middle with
    | nil => exact second [] after follows.symm
    | cons character middle =>
        cases follows
        rcases first before middle precedes with ⟨entity, member, begins⟩
        exact ⟨entity, member, begins.trans (List.prefix_append _ _)⟩

theorem entity {text : List Char} (member : text ∈ entities) : AmpersandsEscaped text := by
  have onlyFirst : ∀ text ∈ entities, text.head? = some '&' ∧ '&' ∉ text.tail := by decide
  rintro before after rfl
  rcases before with - | ⟨first, before⟩
  · exact ⟨_, member, List.prefix_refl _⟩
  · exact absurd (List.mem_append_right before List.mem_cons_self) (onlyFirst _ member).2

theorem escapeMarkup (text : String) : AmpersandsEscaped (Text.escapeMarkup text).toList := by
  rw [toList_escapeMarkup]
  induction text.toList with
  | nil => exact of_not_mem List.not_mem_nil
  | cons character rest induction =>
      rw [List.flatMap_cons]
      refine append ?_ induction
      rcases escapeCharacter_cases character with member | ⟨itself, plain⟩
      · exact entity member
      · rw [itself]
        refine of_not_mem fun ampersand => plain ?_
        rw [List.mem_singleton.mp ampersand]
        exact List.mem_cons_self

end AmpersandsEscaped

end PageTemplates.Text
