import PageTemplates.Proofs.Except
import PageTemplates.Proofs.Scan.Remainder
import PageTemplates.Proofs.Text.Split
import PageTemplates.Template.Segment

/-! # The tokens of a dotted path

A path is cut at its points and never tokenized. Its tokens would be the same names: a
word of the tokens ends where a name ends, also after a number such as `.5` or `1e5`, and
so is one of the parts between the points.
-/

namespace PageTemplates.Token

open Text (splitAt)

/-! ## What a number leaves -/

/-- A number leaves an end of the source, and no name begins there. -/
theorem scanNumber_suffix {source after : List Char} {value : Float}
    (scanned : scanNumber source = .ok (value, after)) :
    after <:+ source ∧ after.head?.any isNameCharacter = false := by
  have ends := remainder_scanNumber source
  rw [scanned] at ends
  refine ⟨ends, ?_⟩
  simp only [scanNumber] at scanned
  split at scanned
  · cases scanned
  · split at scanned <;> cases scanned
    next noName _ => simpa using noName

/-! ## The characters of a path -/

/-- Only characters of paths. -/
def InPath (source : List Char) : Prop :=
  ∀ character ∈ source, Segment.isPathCharacter character = true

theorem InPath.suffix {source after : List Char} (inPath : InPath source)
    (ends : after <:+ source) : InPath after :=
  fun character member => inPath character (ends.mem member)

theorem isAsciiWord_toNat {character : Char} (word : Text.isAsciiWord character = true) :
    48 ≤ character.toNat ∧ character.toNat ≤ 122 := by
  have toNat {low high : UInt32} (between : low ≤ character.val ∧ character.val ≤ high) :
      low.toNat ≤ character.toNat ∧ character.toNat ≤ high.toNat :=
    between.imp UInt32.le_iff_toNat_le.mp UInt32.le_iff_toNat_le.mp
  rcases Bool.or_eq_true_iff.mp word with letter | digit
  · rcases Bool.or_eq_true_iff.mp letter with upper | lower
    · have : 65 ≤ character.toNat ∧ character.toNat ≤ 90 := toNat (of_decide_eq_true upper)
      omega
    · have bounds := Bool.and_eq_true_iff.mp lower
      have : 97 ≤ character.toNat ∧ character.toNat ≤ 122 :=
        toNat (bounds.imp of_decide_eq_true of_decide_eq_true)
      omega
  · have bounds := Bool.and_eq_true_iff.mp digit
    have : 48 ≤ character.toNat ∧ character.toNat ≤ 57 :=
      toNat (bounds.imp of_decide_eq_true of_decide_eq_true)
    omega

theorem isPathCharacter_toNat {character : Char}
    (inPath : Segment.isPathCharacter character = true) :
    46 ≤ character.toNat ∧ character.toNat ≤ 122 := by
  simp only [Segment.isPathCharacter, Bool.or_eq_true, decide_eq_true_eq] at inPath
  rcases inPath with (word | rfl) | rfl
  · have := isAsciiWord_toNat word
    omega
  · decide
  · decide

theorem point_or_isNameCharacter {character : Char}
    (inPath : Segment.isPathCharacter character = true) :
    character = '.' ∨ isNameCharacter character = true := by
  simp only [Segment.isPathCharacter, Bool.or_eq_true, decide_eq_true_eq] at inPath
  rcases inPath with (word | rfl) | rfl
  · have ascii := (isAsciiWord_toNat word).2
    have below : character.toNat < 0x80 := by omega
    simp only [Text.isAsciiWord, Bool.or_eq_true] at word
    simp only [isNameCharacter, Text.isLetter, Text.isNumeral, below, if_true, Bool.or_eq_true]
    rcases word with letter | digit
    · exact .inr (.inl (.inr letter))
    · exact .inr (.inr digit)
  · exact .inr (by decide)
  · exact .inl rfl

theorem isNameCharacter_point : isNameCharacter '.' = false := by decide

theorem isBlank_of_isPathCharacter {character : Char}
    (inPath : Segment.isPathCharacter character = true) :
    Text.isBlank character = false := by
  have := isPathCharacter_toNat inPath
  simp [Text.isBlank, Text.blankRanges, Text.Ranges.contains]
  omega

/-- A path has neither blanks nor comments. -/
theorem skipTrivia_of_inPath {source : List Char} (inPath : InPath source) :
    skipTrivia source = .ok source := by
  rcases source with - | ⟨first, rest⟩
  · simp [skipTrivia]
  · have starts := inPath first List.mem_cons_self
    have noSlash : first ≠ '/' := by
      rintro rfl
      cases starts
    rw [skipTrivia]
    · simp [isBlank_of_isPathCharacter starts]
    · rintro after equal -
      exact noSlash equal
    · rintro after equal -
      exact noSlash equal

/-! ## Words among the parts -/

/-- The parts of `rest` are parts of `source`, but for an empty one where `rest` begins. -/
def PartsOf (rest source : List Char) : Prop :=
  ∀ part ∈ splitAt '.' rest, part = [] ∨ part ∈ splitAt '.' source

theorem PartsOf.trans {first second third : List Char} (inner : PartsOf first second)
    (outer : PartsOf second third) : PartsOf first third := by
  intro part member
  rcases inner part member with empty | member
  · exact .inl empty
  · exact outer part member

/-- Nothing, or a point first: where a part of a path has ended. -/
def EndsPart (rest : List Char) : Prop :=
  rest = [] ∨ ∃ after, rest = '.' :: after

theorem EndsPart.partsOf {rest : List Char} (ended : EndsPart rest) (before : List Char) :
    PartsOf rest (before ++ rest) := by
  intro part member
  rcases ended with rfl | ⟨after, rfl⟩
  · left
    simpa [splitAt] using member
  · rw [splitAt, if_pos rfl, List.mem_cons] at member
    rw [Text.splitAt_append_cons, List.mem_append]
    exact member.imp_right .inr

theorem partsOf_cons_point (rest : List Char) : PartsOf rest ('.' :: rest) := by
  intro part member
  rw [splitAt, if_pos rfl]
  exact .inr (List.mem_cons_of_mem [] member)

theorem endsPart_of_inPath {rest : List Char} (inPath : InPath rest)
    (noName : rest.head?.any isNameCharacter = false) : EndsPart rest := by
  rcases rest with - | ⟨first, after⟩
  · exact .inl rfl
  · rcases point_or_isNameCharacter (inPath first List.mem_cons_self) with rfl | name
    · exact .inr ⟨after, rfl⟩
    · simp [name] at noName

theorem EndsPart.mem_splitAt {name rest : List Char} (ended : EndsPart rest)
    (noPoint : '.' ∉ name) : name ∈ splitAt '.' (name ++ rest) := by
  rcases ended with rfl | ⟨after, rfl⟩
  · rw [List.append_nil, Text.splitAt_of_not_mem noPoint]
    exact List.mem_cons_self
  · rw [Text.splitAt_append_cons, Text.splitAt_of_not_mem noPoint]
    exact List.mem_cons_self

/-- What a token of a path is: a word is a part of the path, and no token is a string. -/
def IsPart (source : List Char) : Token → Prop
  | .word name => name.toList = [] ∨ name.toList ∈ splitAt '.' source
  | .string _ => False
  | .number _ | .symbol _ => True

theorem IsPart.mono {token : Token} {rest source : List Char} (parts : PartsOf rest source)
    (part : IsPart rest token) : IsPart source token := by
  cases token with
  | word name =>
      rcases part with empty | member
      · exact .inl empty
      · exact parts _ member
  | string | number | symbol => exact part

/-! ## One token -/

theorem scanNumber_of_inPath {source after : List Char} {value : Float}
    (inPath : InPath source) (scanned : scanNumber source = .ok (value, after)) :
    after <:+ source ∧ PartsOf after source := by
  rcases scanNumber_suffix scanned with ⟨ends, noName⟩
  refine ⟨ends, ?_⟩
  have ended := endsPart_of_inPath (inPath.suffix ends) noName
  rcases ends with ⟨before, rfl⟩
  exact ended.partsOf before

/-- The only symbols of a path are one point and three. -/
theorem scanSymbol?_of_inPath {source after : List Char} {spelling : String}
    (inPath : InPath source) (scanned : scanSymbol? source = some (spelling, after)) :
    after <:+ source ∧ PartsOf after source := by
  rcases Option.map_eq_some_iff.mp scanned with ⟨found, search, equal⟩
  cases equal
  refine ⟨List.drop_suffix _ _, ?_⟩
  have starts := List.find?_some search
  rcases List.isPrefixOf_iff_prefix.mp starts with ⟨after, rfl⟩
  rw [List.drop_left]
  have points : ∀ symbol ∈ symbols, symbol.toList.all Segment.isPathCharacter = true →
      symbol = "." ∨ symbol = "..." := by decide +kernel
  have spelled : spelling.toList.all Segment.isPathCharacter = true :=
    List.all_eq_true.mpr fun character member =>
      inPath character (List.mem_append_left after member)
  rcases points spelling (List.mem_of_find?_eq_some search) spelled with rfl | rfl
  · exact partsOf_cons_point after
  · exact ((partsOf_cons_point after).trans (partsOf_cons_point _)).trans
      (partsOf_cons_point _)

theorem scanToken_of_inPath {first : Char} {rest after : List Char} {token : Token}
    (inPath : InPath (first :: rest)) (scanned : scanToken first rest = .ok (token, after)) :
    IsPart (first :: rest) token ∧ after <:+ first :: rest ∧ PartsOf after (first :: rest) := by
  have starts := inPath first List.mem_cons_self
  unfold scanToken at scanned
  split at scanned
  · cases number : scanNumber (first :: rest) with
    | error refused => simp [number] at scanned
    | ok found =>
        simp only [number, map_ok] at scanned
        cases scanned
        exact ⟨trivial, scanNumber_of_inPath inPath number⟩
  · split at scanned
    · rename_i quote
      rcases quote with rfl | rfl <;> cases starts
    · split at scanned
      · cases scanned
        have cut : (first :: rest).takeWhile isNameCharacter ++
            (first :: rest).dropWhile isNameCharacter = first :: rest :=
          List.takeWhile_append_dropWhile
        have ends : (first :: rest).dropWhile isNameCharacter <:+ first :: rest :=
          List.dropWhile_suffix isNameCharacter
        have noName : ((first :: rest).dropWhile isNameCharacter).head?.any
            isNameCharacter = false := by
          have stopped := List.head?_dropWhile_not isNameCharacter (first :: rest)
          cases next : ((first :: rest).dropWhile isNameCharacter).head? with
          | none => rfl
          | some character =>
              rw [next] at stopped
              exact stopped
        have noPoint : '.' ∉ (first :: rest).takeWhile isNameCharacter := by
          intro member
          have name := List.all_eq_true.mp List.all_takeWhile '.' member
          rw [isNameCharacter_point] at name
          cases name
        have ended := endsPart_of_inPath (inPath.suffix ends) noName
        have part := ended.mem_splitAt noPoint
        have parts := ended.partsOf ((first :: rest).takeWhile isNameCharacter)
        rw [cut] at part parts
        refine ⟨?_, ends, parts⟩
        rw [IsPart, String.toList_ofList]
        exact .inr part
      · split at scanned
        · rename_i symbol
          cases scanned
          exact ⟨trivial, scanSymbol?_of_inPath inPath symbol⟩
        · cases scanned

/-! ## All tokens -/

/-- By induction on what is left of the source: it is a path again, and its parts are
parts of the whole. -/
theorem scanFrom_of_inPath {total : Nat} {source : List Char} {tokens : List Placed}
    (inPath : InPath source) (scanned : scanFrom total source = .ok tokens) :
    ∀ placed ∈ tokens, IsPart source placed.token := by
  fun_induction scanFrom total source generalizing tokens with
  | case1 => cases scanned
  | case2 =>
      cases scanned
      simp
  | case3 => cases scanned
  | case4 source first rest skipped token after found =>
      rename_i induction
      rw [skipTrivia_of_inPath inPath] at skipped
      cases skipped
      rcases scanToken_of_inPath inPath found with ⟨part, ends, parts⟩
      cases others : scanFrom total after with
      | error refused => simp [others] at scanned
      | ok tail =>
          simp only [others, map_ok] at scanned
          cases scanned
          intro placed member
          rcases List.mem_cons.mp member with rfl | member
          · exact part
          · exact (induction (inPath.suffix ends) others placed member).mono parts

/-- Every word among the tokens of a path is one of its parts. -/
theorem scan_of_inPath {source : String} {tokens : List Placed}
    (inPath : InPath source.toList) (scanned : scan source = .ok tokens) :
    ∀ placed ∈ tokens, IsPart source.toList placed.token := by
  simp only [scan] at scanned
  split at scanned
  · rename_i found
    cases scanned
    exact scanFrom_of_inPath inPath found
  · cases scanned

end PageTemplates.Token
