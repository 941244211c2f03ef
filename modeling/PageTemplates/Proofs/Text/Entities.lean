import PageTemplates.Proofs.Text.Markup

/-! # Reading escaped text back

Escaped text is an encoding: one pass over it that puts the character in the place of each
entity gives the text that was escaped. That a text held entities before it was escaped
makes no difference, since their ampersands were escaped as well.
-/

namespace PageTemplates.Text

/-- The text with every entity replaced by its character, from left to right. What is put
in the place of an entity is not looked at again. -/
def decodeEntities : List Char → List Char
  | [] => []
  | '&' :: 'a' :: 'm' :: 'p' :: ';' :: rest => '&' :: decodeEntities rest
  | '&' :: 'l' :: 't' :: ';' :: rest => '<' :: decodeEntities rest
  | '&' :: 'g' :: 't' :: ';' :: rest => '>' :: decodeEntities rest
  | '&' :: 'q' :: 'u' :: 'o' :: 't' :: ';' :: rest => '"' :: decodeEntities rest
  | '&' :: '#' :: '3' :: '9' :: ';' :: rest => '\'' :: decodeEntities rest
  | character :: rest => character :: decodeEntities rest

def decodeMarkup (text : String) : String :=
  String.ofList (decodeEntities text.toList)

/-! ## Escaping piece by piece -/

theorem escapeMarkup_eq_flatMap (text : String) :
    escapeMarkup text = String.ofList (text.toList.flatMap escapeCharacter) := by
  rw [← toList_escapeMarkup, String.ofList_toList]

theorem escapeMarkup_append (left right : String) :
    escapeMarkup (left ++ right) = escapeMarkup left ++ escapeMarkup right := by
  rw [← String.toList_inj]
  simp

theorem disjoint_escapeMarkup (text : String) :
    ['<', '>', '"', '\''].Disjoint (escapeMarkup text).toList :=
  fun _ isMarkup => not_mem_escapeMarkup isMarkup text

/-! ## Decoding -/

/-- Only at an ampersand does decoding look further than one character. -/
theorem decodeEntities_cons_of_ne {character : Char} (plain : character ≠ '&')
    (rest : List Char) :
    decodeEntities (character :: rest) = character :: decodeEntities rest := by
  rw [decodeEntities]
  all_goals
    rintro after rfl
    exact absurd rfl plain

@[simp]
theorem decodeEntities_escapeCharacter_append (character : Char) (rest : List Char) :
    decodeEntities (escapeCharacter character ++ rest) = character :: decodeEntities rest := by
  unfold escapeCharacter
  split
  iterate 5 rfl
  next notAmpersand _ _ _ _ => exact decodeEntities_cons_of_ne notAmpersand rest

@[simp]
theorem decodeEntities_flatMap_escapeCharacter (text : List Char) :
    decodeEntities (text.flatMap escapeCharacter) = text := by
  induction text with
  | nil => rfl
  | cons character rest induction => simp [induction]

@[simp]
theorem decodeMarkup_escapeMarkup (text : String) : decodeMarkup (escapeMarkup text) = text := by
  simp [decodeMarkup]

/-- Escaping is one pass over the characters, so it goes piece by piece; it leaves no markup
character but ampersands that begin entities; and it loses nothing, since decoding the
entities gives every text back. -/
theorem escapeMarkup_faithful :
    (∀ text, escapeMarkup text = String.ofList (text.toList.flatMap escapeCharacter)) ∧
    (∀ left right, escapeMarkup (left ++ right) = escapeMarkup left ++ escapeMarkup right) ∧
    (∀ text, ['<', '>', '"', '\''].Disjoint (escapeMarkup text).toList) ∧
    (∀ text, AmpersandsEscaped (escapeMarkup text).toList) ∧
    (∀ text, decodeMarkup (escapeMarkup text) = text) ∧
    Function.Injective escapeMarkup :=
  ⟨escapeMarkup_eq_flatMap, escapeMarkup_append, disjoint_escapeMarkup, .escapeMarkup,
    decodeMarkup_escapeMarkup, Function.LeftInverse.injective decodeMarkup_escapeMarkup⟩

/-- A text that looks escaped is escaped once more, and decoded only once. -/
example : escapeMarkup "&lt;" = "&amp;lt;" ∧ decodeMarkup "&amp;lt;" = "&lt;" := by
  decide +kernel

end PageTemplates.Text
