import Mathlib.Data.List.DropRight
import PageTemplates.Text.Blank

/-! # What trimming drops

Blanks at either end of a text do not matter to what is left of it, and what is left ends in
no blank.
-/

namespace PageTemplates.Text

/-- A text of blanks alone. -/
abbrev Blanks (text : List Char) : Prop :=
  ∀ character ∈ text, isBlank character = true

theorem trimStart_append_of_blanks {blanks : List Char} (blank : Blanks blanks)
    (text : List Char) : trimStart (blanks ++ text) = trimStart text :=
  List.dropWhile_append_of_pos blank

theorem trimStart_cons_of_visible {character : Char} (visible : isBlank character = false)
    (text : List Char) : trimStart (character :: text) = character :: text :=
  List.dropWhile_cons_of_neg (by simp [visible])

theorem trimEnd_eq_rdropWhile (text : List Char) : trimEnd text = text.rdropWhile isBlank :=
  rfl

theorem trimEnd_eq_nil_iff {text : List Char} : trimEnd text = [] ↔ Blanks text := by
  rw [trimEnd_eq_rdropWhile, List.rdropWhile_eq_nil_iff]

theorem trimEnd_append_blanks (text : List Char) {blanks : List Char} (blank : Blanks blanks) :
    trimEnd (text ++ blanks) = trimEnd text := by
  have reversed : ∀ character ∈ blanks.reverse, isBlank character = true :=
    fun character member => blank character (List.mem_reverse.mp member)
  rw [trimEnd, trimStart, List.reverse_append, List.dropWhile_append_of_pos reversed]
  rfl

theorem exists_eq_trimEnd_append (text : List Char) :
    ∃ blanks, text = trimEnd text ++ blanks ∧ Blanks blanks := by
  refine ⟨text.rtakeWhile isBlank, ?_, fun _ => List.mem_rtakeWhile_imp⟩
  rw [trimEnd, trimStart, List.rtakeWhile, ← List.reverse_append,
    List.takeWhile_append_dropWhile, List.reverse_reverse]

/-- A first character that is no blank, or that something else than blanks follows, is not
trimmed from the end. -/
theorem trimEnd_cons {character : Char} {text : List Char}
    (visible : ¬ Blanks (character :: text)) :
    trimEnd (character :: text) = character :: trimEnd text := by
  by_cases blank : Blanks text
  · have last : isBlank character = false := by
      rw [← Bool.not_eq_true]
      exact fun isBlank => visible (List.forall_mem_cons.mpr ⟨isBlank, blank⟩)
    rw [← List.singleton_append, trimEnd_append_blanks _ blank, trimEnd_eq_nil_iff.mpr blank]
    simp [trimEnd, trimStart, last]
  · have kept : text.reverse.dropWhile isBlank ≠ [] := by
      intro none
      exact blank fun character member =>
        List.dropWhile_eq_nil_iff.mp none character (List.mem_reverse.mpr member)
    rw [trimEnd, trimEnd, trimStart, trimStart, List.reverse_cons, List.dropWhile_append,
      if_neg (by simpa using kept), List.reverse_append]
    rfl

theorem trim_cons_of_blank {character : Char} (blank : isBlank character = true)
    (text : List Char) : trim (character :: text) = trim text := by
  rw [trim, trimStart, List.dropWhile_cons_of_pos blank]
  rfl

theorem trim_blanks_append {blanks : List Char} (blank : Blanks blanks) (text : List Char) :
    trim (blanks ++ text) = trim text := by
  rw [trim, trimStart_append_of_blanks blank, trim]

theorem trim_append_blanks (text : List Char) {blanks : List Char} (blank : Blanks blanks) :
    trim (text ++ blanks) = trim text := by
  rw [trim, trimStart, List.dropWhile_append]
  split
  next empty =>
    have gone : text.dropWhile isBlank = [] := List.isEmpty_iff.mp empty
    rw [List.dropWhile_eq_nil_iff.mpr blank, trim, trimStart, gone]
  next => exact trimEnd_append_blanks _ blank

/-! ## Trimmed texts -/

theorem trim_eq_self {text : List Char}
    (visible : ∀ character ∈ text, isBlank character = false) : trim text = text := by
  cases text with
  | nil => rfl
  | cons first rest =>
      rw [trim, trimStart_cons_of_visible (visible first List.mem_cons_self),
        trimEnd_eq_rdropWhile, List.rdropWhile_eq_self_iff]
      intro nonempty
      simp [visible _ (List.getLast_mem nonempty)]

theorem length_trim_le (text : List Char) : (trim text).length ≤ text.length := by
  have start := (List.dropWhile_sublist (p := isBlank) (l := text)).length_le
  have rest := (List.dropWhile_sublist (p := isBlank) (l := (trimStart text).reverse)).length_le
  rw [List.length_reverse] at rest
  rw [trim, trimEnd, List.length_reverse]
  exact Nat.le_trans rest start

@[simp]
theorem trim_trim (text : List Char) : trim (trim text) = trim text := by
  have ends : trimEnd (trim text) = trim text := List.rdropWhile_idempotent isBlank _
  have starts : trimStart (trim text) = trim text := by
    rw [trim]
    cases start : trimStart text with
    | nil => rfl
    | cons first rest =>
        have visible : isBlank first = false := by
          have head := List.head?_dropWhile_not isBlank text
          rw [show text.dropWhile isBlank = first :: rest from start] at head
          simpa using head
        rw [trimEnd_cons fun blank => by simp [blank first List.mem_cons_self] at visible]
        exact List.dropWhile_cons_of_neg (by simp [visible])
  rw [trim, starts, ends]

/-- A trimmed text ends in no blanks. -/
theorem eq_nil_of_trim_append (text : List Char) {blanks : List Char}
    (trimmed : trim (text ++ blanks) = text ++ blanks) (blank : Blanks blanks) : blanks = [] := by
  have shorter := length_trim_le text
  rw [← trim_append_blanks text blank, trimmed, List.length_append] at shorter
  exact List.length_eq_zero_iff.mp (by omega)

end PageTemplates.Text
