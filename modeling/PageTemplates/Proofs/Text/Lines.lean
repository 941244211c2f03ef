import Mathlib.Data.List.Infix
import PageTemplates.Proofs.Text.Split
import PageTemplates.Text.Lines

/-! # Joined line endings

To replace every pair of a carriage return and a line feed by the line feed is to drop the
carriage returns that stand directly before a line feed, and nothing else. A pair may be
left: one that stood behind another carriage return.
-/

namespace PageTemplates.Text

abbrev lineEndPair : List Char := ['\r', '\n']

/-! ## Pairs in a text -/

theorem lineEndPair_prefix_cons {character : Char} {rest : List Char} :
    lineEndPair <+: character :: rest ↔ character = '\r' ∧ rest.head? = some '\n' := by
  rw [List.cons_prefix_cons, eq_comm]
  cases rest <;> simp [eq_comm]

theorem lineEndPair_not_prefix_cons {character : Char} {rest : List Char}
    (other : ∀ after, character = '\r' → rest = '\n' :: after → False) :
    ¬ lineEndPair <+: character :: rest := by
  rintro ⟨after, spelled⟩
  cases spelled
  exact other after rfl rfl

@[simp]
theorem hasLineEndPair_iff {text : List Char} :
    hasLineEndPair text = true ↔ lineEndPair <:+: text := by
  fun_induction hasLineEndPair text with
  | case1 rest => simpa using (List.prefix_append lineEndPair rest).isInfix
  | case2 character rest other induction =>
      rw [induction, List.infix_cons_iff, or_iff_right (lineEndPair_not_prefix_cons other)]
  | case3 => simp

theorem joinLineEnds_eq_self_iff {text : List Char} :
    joinLineEnds text = text ↔ ¬ lineEndPair <:+: text := by
  rw [← hasLineEndPair_iff, Bool.not_eq_true]
  fun_induction joinLineEnds text with
  | case1 rest => simp [hasLineEndPair]
  | case2 character rest other induction =>
      rw [hasLineEndPair, List.cons.injEq, ← induction]
      · simp
      · exact other
  | case3 => simp [hasLineEndPair]

@[simp]
theorem normalizeLinesIfNeeded_eq (text : String) :
    normalizeLinesIfNeeded text = normalizeLines text := by
  unfold normalizeLinesIfNeeded
  split
  next => rfl
  next absent =>
    rw [hasLineEndPair_iff] at absent
    rw [normalizeLines, joinLineEnds_eq_self_iff.mpr absent, String.ofList_toList]

/-! ## Pairs that are left -/

theorem head?_joinLineEnds_eq_lineFeed {text : List Char} :
    (joinLineEnds text).head? = some '\n' ↔
      text.head? = some '\n' ∨ lineEndPair <+: text := by
  fun_cases joinLineEnds text with
  | case1 rest => simp
  | case2 character rest other => simp [lineEndPair_not_prefix_cons other]
  | case3 => simp

/-- A pair is left where another carriage return stood before one. -/
theorem lineEndPair_infix_joinLineEnds {text : List Char} :
    lineEndPair <:+: joinLineEnds text ↔ '\r' :: lineEndPair <:+: text := by
  fun_induction joinLineEnds text with
  | case1 rest induction => simp [List.infix_cons_iff, induction]
  | case2 character rest other induction =>
      have unjoined : ¬ (character = '\r' ∧ rest.head? = some '\n') :=
        lineEndPair_prefix_cons.not.mp (lineEndPair_not_prefix_cons other)
      have begins : lineEndPair <+: character :: joinLineEnds rest ↔
          '\r' :: lineEndPair <+: character :: rest := by
        rw [lineEndPair_prefix_cons, head?_joinLineEnds_eq_lineFeed, List.cons_prefix_cons,
          and_or_left, or_iff_right unjoined, eq_comm]
      rw [List.infix_cons_iff, List.infix_cons_iff, begins, induction]
  | case3 => simp

/-! ## Two accounts of the replacement -/

/-- Every occurrence of a mark is replaced, from left to right, the next one looked for
behind the one before. -/
inductive Replaces (mark replacement : List Char) : List Char → List Char → Prop
  | none {text : List Char} : cutAt mark text = .none → Replaces mark replacement text text
  | first {text before after result : List Char} : cutAt mark text = some (before, after) →
      Replaces mark replacement after result →
      Replaces mark replacement text (before ++ replacement ++ result)

theorem replaces_joinLineEnds (text : List Char) :
    Replaces lineEndPair ['\n'] text (joinLineEnds text) := by
  fun_induction joinLineEnds text with
  | case1 rest induction => exact .first (cutAt_of_isPrefixOf (by simp) rfl) induction
  | case2 character rest other induction =>
      have cut := cutAt_cons_of_not_isPrefixOf (Bool.eq_false_iff.mpr
        (List.isPrefixOf_iff_prefix.not.mpr (lineEndPair_not_prefix_cons other)))
      generalize joinLineEnds rest = joined at induction
      cases induction with
      | none absent => exact .none (by rw [cut, absent]; rfl)
      | first found replaces => exact .first (by rw [cut, found]; rfl) replaces
  | case3 => exact .none rfl

/-- Whether a character in its place is no carriage return with a line feed in the place
after it. -/
def isUnpaired (at? : Nat → Option Char) (placed : Char × Nat) : Bool :=
  !(placed.1 = '\r' && at? (placed.2 + 1) = some '\n')

/-- The text without the carriage returns that stand directly before a line feed. -/
def withoutPairedReturns (text : List Char) : List Char :=
  (text.zipIdx.filter (isUnpaired fun place => text[place]?)).map Prod.fst

/-- As `joinLineEnds_eq_withoutPairedReturns`, for the end of a text from the place `start`
on. -/
theorem map_filter_zipIdx_isUnpaired (at? : Nat → Option Char) (text : List Char)
    (start : Nat) (agree : ∀ place, at? (start + place) = text[place]?) :
    ((text.zipIdx start).filter (isUnpaired at?)).map Prod.fst = joinLineEnds text := by
  fun_induction joinLineEnds text generalizing start with
  | case1 rest induction =>
      have paired : isUnpaired at? ('\r', start) = false := by
        simp [isUnpaired, show at? (start + 1) = some '\n' from agree 1]
      have kept : isUnpaired at? ('\n', start + 1) = true := by simp [isUnpaired]
      have later := induction (start + 2) fun place => by
        rw [Nat.add_right_comm, Nat.add_assoc, agree]
        rfl
      simp [List.zipIdx_cons, paired, kept, later]
  | case2 character rest other induction =>
      have kept : isUnpaired at? (character, start) = true := by
        have next : at? (start + 1) = rest.head? := by
          rw [agree 1, List.getElem?_cons_succ, List.head?_eq_getElem?]
        have unjoined : ¬ (character = '\r' ∧ rest.head? = some '\n') :=
          lineEndPair_prefix_cons.not.mp (lineEndPair_not_prefix_cons other)
        simpa [isUnpaired, next, ← not_and_or] using unjoined
      have later := induction (start + 1) fun place => by
        rw [Nat.add_right_comm, Nat.add_assoc, agree]
        rfl
      rw [List.zipIdx_cons, List.filter_cons_of_pos kept, List.map_cons, later]
  | case3 => rfl

theorem joinLineEnds_eq_withoutPairedReturns (text : List Char) :
    joinLineEnds text = withoutPairedReturns text :=
  (map_filter_zipIdx_isUnpaired (fun place => text[place]?) text 0
    fun place => by rw [Nat.zero_add]).symm

/-! ## Normalized texts -/

theorem normalizeLines_eq (text : String) :
    normalizeLines text = String.ofList (withoutPairedReturns text.toList) := by
  rw [normalizeLines, joinLineEnds_eq_withoutPairedReturns]

/-- A text is normalized by dropping the carriage returns directly before line feeds, which
is to replace the pairs, and which may be left out where there is no pair. A pair is left
exactly if there was one behind another carriage return, and normalizing once more changes
something only then. -/
theorem normalizeLines_laws (text : String) :
    normalizeLinesIfNeeded text = normalizeLines text ∧
    (hasLineEndPair text.toList = true ↔ ['\r', '\n'] <:+: text.toList) ∧
    (normalizeLines text).toList = withoutPairedReturns text.toList ∧
    Replaces ['\r', '\n'] ['\n'] text.toList (normalizeLines text).toList ∧
    (['\r', '\n'] <:+: (normalizeLines text).toList ↔
      ['\r', '\r', '\n'] <:+: text.toList) ∧
    (normalizeLines (normalizeLines text) = normalizeLines text ↔
      ¬ ['\r', '\r', '\n'] <:+: text.toList) := by
  have characters : (normalizeLines text).toList = joinLineEnds text.toList :=
    String.toList_ofList
  refine ⟨normalizeLinesIfNeeded_eq text, hasLineEndPair_iff, ?_, ?_, ?_, ?_⟩
  · rw [characters, joinLineEnds_eq_withoutPairedReturns]
  · rw [characters]
    exact replaces_joinLineEnds text.toList
  · rw [characters]
    exact lineEndPair_infix_joinLineEnds
  · calc
      normalizeLines (normalizeLines text) = normalizeLines text ↔
          joinLineEnds (joinLineEnds text.toList) = joinLineEnds text.toList := by
        rw [normalizeLines, characters, normalizeLines, String.ofList_inj]
      _ ↔ ¬ ['\r', '\r', '\n'] <:+: text.toList :=
        joinLineEnds_eq_self_iff.trans lineEndPair_infix_joinLineEnds.not

end PageTemplates.Text
