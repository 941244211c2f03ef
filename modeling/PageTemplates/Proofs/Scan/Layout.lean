import PageTemplates.Proofs.Scan.Reading
import PageTemplates.Proofs.Text.Split

/-! # Where tokens stand

A scanned source is the texts of its tokens one after another, with nothing but blanks and
comments before, between and after them. So a token starts and stops between characters,
and stops before the next one starts.
-/

namespace PageTemplates.Token

/-! ## Blanks and comments -/

/-- Blanks and whole comments, before `rest`. -/
inductive Trivia (rest : List Char) : List Char → Prop
  | none : Trivia rest []
  | blank {character : Char} {gap : List Char} : Text.isBlank character = true →
      Trivia rest gap → Trivia rest (character :: gap)
  /-- A comment up to the end of its line, which is the end of the source if none follows. -/
  | line {comment gap : List Char} : (∀ character ∈ comment, isLineEnd character = false) →
      Stops (fun character => !isLineEnd character) (gap ++ rest) →
      Trivia rest gap → Trivia rest ('/' :: '/' :: (comment ++ gap))
  | block {comment gap : List Char} : ¬ ['*', '/'] <:+: comment →
      Trivia rest gap → Trivia rest ('/' :: '*' :: (comment ++ '*' :: '/' :: gap))

theorem exists_of_skipTrivia {source rest : List Char}
    (skipped : skipTrivia source = .ok rest) :
    ∃ gap, source = gap ++ rest ∧ Trivia rest gap := by
  fun_induction skipTrivia source with
  | case1 =>
      cases skipped
      exact ⟨[], rfl, .none⟩
  | case2 body induction =>
      rcases induction skipped with ⟨gap, whole, trivia⟩
      have stops := stops_dropWhile (fun character => !isLineEnd character) body
      rw [whole] at stops
      have inLine : ∀ character ∈ body.takeWhile fun character => !isLineEnd character,
          isLineEnd character = false := by
        intro character member
        simpa using List.mem_takeWhile_imp member
      refine ⟨_, ?_, .line inLine stops trivia⟩
      rw [List.cons_append, List.cons_append, List.append_assoc, ← whole,
        List.takeWhile_append_dropWhile]
  | case3 body before after cut induction =>
      rcases induction skipped with ⟨gap, rfl, trivia⟩
      have absent := Text.not_infix_of_cutAt (by simp) cut
      refine ⟨_, ?_, .block absent trivia⟩
      simp [← Text.append_of_cutAt cut]
  | case4 => cases skipped
  | case5 character body _ _ blank induction =>
      rcases induction skipped with ⟨gap, rfl, trivia⟩
      exact ⟨character :: gap, rfl, .blank blank trivia⟩
  | case6 =>
      cases skipped
      exact ⟨[], rfl, .none⟩

/-! ## Whole sources -/

/-- A source from the byte `offset` on, with its tokens in their places and their texts: each
text is scanned alone as its token, and that of a symbol is the longest that there is. -/
inductive Layout : (offset : Nat) → (source : List Char) → List Placed → List String → Prop
  | last {offset : Nat} {gap : List Char} : Trivia [] gap → Layout offset gap [] []
  | token {offset : Nat} {gap rest : List Char} {token : Token} {text : String}
      {placed : List Placed} {texts : List String} :
      Trivia (text.toList ++ rest) gap → text ≠ "" →
      scan text = .ok [⟨token, 0, byteLength text.toList⟩] →
      (∀ spelling, token = .symbol spelling →
        text = spelling ∧ IsLongestSymbol text (text.toList ++ rest)) →
      Layout (offset + byteLength gap + byteLength text.toList) rest placed texts →
      Layout offset (gap ++ (text.toList ++ rest))
        (⟨token, offset + byteLength gap,
          offset + byteLength gap + byteLength text.toList⟩ :: placed)
        (text :: texts)

theorem layout_of_scanFrom {total : Nat} {source : List Char} {placed : List Placed}
    (scanned : scanFrom total source = .ok placed) {offset : Nat}
    (whole : total = offset + byteLength source) :
    ∃ texts, Layout offset source placed texts ∧
      List.Forall₂ IsReadAs (placed.map (·.token)) texts := by
  fun_induction scanFrom total source generalizing placed offset with
  | case1 => cases scanned
  | case2 source skipped =>
      cases scanned
      rcases exists_of_skipTrivia skipped with ⟨gap, rfl, trivia⟩
      rw [List.append_nil]
      exact ⟨[], .last trivia, .nil⟩
  | case3 => cases scanned
  | case4 source first rest skipped token after read here =>
      rename_i induction
      rcases exists_of_map_eq_ok scanned with ⟨others, later, rfl⟩
      rcases exists_of_skipTrivia skipped with ⟨gap, rfl, trivia⟩
      rcases exists_of_scanToken read with ⟨text, same, isRead, symbol⟩
      rw [← same] at trivia symbol whole
      rw [byteLength_append, byteLength_append] at whole
      have left : total =
          offset + byteLength gap + byteLength text.toList + byteLength after := by omega
      rcases induction later left with ⟨texts, layout, reads⟩
      have placing : here = ⟨token, offset + byteLength gap,
          offset + byteLength gap + byteLength text.toList⟩ := by
        simp only [here, ← same, byteLength_append, Placed.mk.injEq, true_and]
        omega
      rw [← same, placing]
      exact ⟨text :: texts, .token trivia isRead.ne_empty isRead.scan symbol layout,
        .cons isRead reads⟩

/-! ## Positions -/

theorem byteLength_pos {text : String} (nonempty : text ≠ "") :
    0 < byteLength text.toList := by
  rw [Nat.pos_iff_ne_zero]
  intro empty
  exact nonempty (String.toList_eq_nil_iff.mp (byteLength_eq_zero empty))

section

variable {offset : Nat} {source : List Char} {placed : List Placed} {texts : List String}

theorem Layout.le_start (layout : Layout offset source placed texts) :
    ∀ token ∈ placed, offset ≤ token.start := by
  induction layout with
  | last => nofun
  | token _ _ _ _ _ induction =>
      rw [List.forall_mem_cons]
      refine ⟨Nat.le_add_right _ _, fun other member => ?_⟩
      have := induction other member
      omega

theorem Layout.start_lt_stop (layout : Layout offset source placed texts) :
    ∀ token ∈ placed, token.start < token.stop := by
  induction layout with
  | last => nofun
  | token _ nonempty _ _ _ induction =>
      exact List.forall_mem_cons.mpr
        ⟨Nat.lt_add_of_pos_right (byteLength_pos nonempty), induction⟩

/-- A token stops before the next one starts, or where it does. -/
theorem Layout.pairwise (layout : Layout offset source placed texts) :
    placed.Pairwise fun one next => one.stop ≤ next.start := by
  induction layout with
  | last => exact .nil
  | token _ _ _ _ layout induction => exact .cons layout.le_start induction

/-- A place between two characters of a source, or at an end of it. -/
def IsBoundary (offset : Nat) (source : List Char) (position : Nat) : Prop :=
  ∃ before, before <+: source ∧ position = offset + byteLength before

theorem IsBoundary.append {rest : List Char} {position : Nat} (before : List Char)
    (boundary : IsBoundary (offset + byteLength before) rest position) :
    IsBoundary offset (before ++ rest) position := by
  rcases boundary with ⟨inner, begins, rfl⟩
  refine ⟨before ++ inner, (List.prefix_append_right_inj before).mpr begins, ?_⟩
  simp [Nat.add_assoc]

theorem Layout.boundaries (layout : Layout offset source placed texts) :
    ∀ token ∈ placed, IsBoundary offset source token.start ∧
      IsBoundary offset source token.stop := by
  induction layout with
  | last => nofun
  | @token offset gap rest _ text _ _ _ _ _ _ _ induction =>
      have starts : IsBoundary (offset + byteLength gap) (text.toList ++ rest)
          (offset + byteLength gap) := ⟨[], List.nil_prefix, rfl⟩
      have stops : IsBoundary (offset + byteLength gap) (text.toList ++ rest)
          (offset + byteLength gap + byteLength text.toList) :=
        ⟨text.toList, List.prefix_append _ _, rfl⟩
      refine List.forall_mem_cons.mpr ⟨⟨starts.append gap, stops.append gap⟩, ?_⟩
      intro other member
      rcases induction other member with ⟨start, stop⟩
      exact ⟨(start.append text.toList).append gap, (stop.append text.toList).append gap⟩

end

theorem byteLength_eq_utf8ByteSize (text : List Char) :
    byteLength text = (String.ofList text).utf8ByteSize := by
  induction text with
  | nil => rfl
  | cons character text induction =>
      rw [byteLength, induction, String.ofList_cons, String.utf8ByteSize_append,
        String.utf8ByteSize_singleton]

/-- A beginning of a source ends where a character starts, or where the source ends. -/
theorem IsBoundary.isValid {source : String} {position : Nat}
    (boundary : IsBoundary 0 source.toList position) :
    String.Pos.Raw.IsValid source ⟨position⟩ := by
  rcases boundary with ⟨before, ⟨after, whole⟩, rfl⟩
  refine String.Pos.Raw.isValid_iff_exists_append.mpr
    ⟨String.ofList before, String.ofList after, ?_, ?_⟩
  · rw [← String.ofList_append, whole, String.ofList_toList]
  · rw [Nat.zero_add, byteLength_eq_utf8ByteSize]
    rfl

/-! ## Scanned sources -/

/-- The tokens of a source with their texts, and the tokens of these texts with single spaces
between them. -/
theorem exists_layout_of_scan {source : String} {placed : List Placed}
    (scanned : scan source = .ok placed) :
    ∃ texts, Layout 0 source.toList placed texts ∧
      ∃ spaced, scan (" ".intercalate texts) = .ok spaced ∧
        spaced.map (·.token) = placed.map (·.token) := by
  simp only [scan] at scanned
  split at scanned <;> cases scanned
  next found =>
    rcases layout_of_scanFrom found (Nat.zero_add _).symm with ⟨texts, layout, reads⟩
    exact ⟨texts, layout, scan_intercalate_of_isReadAs reads⟩

theorem isBoundary_of_scan {source : String} {error : ParseError}
    (scanned : scan source = .error error) :
    IsBoundary 0 source.toList error.position := by
  simp only [scan] at scanned
  split at scanned <;> cases scanned
  next found =>
    rcases scanFrom_refused_suffix found with ⟨before, whole⟩
    refine ⟨before, ⟨_, whole⟩, ?_⟩
    simp [← whole]

end PageTemplates.Token
