import PageTemplates.Proofs.Scan.Number
import PageTemplates.Proofs.Template.Delimiters
import PageTemplates.Proofs.Template.PathTokens
import PageTemplates.Proofs.Text.Units

/-! # What the code of a tag becomes

Code is of the include form if it can be split into the word `include`, an argument in
parentheses and perhaps a semicolon, and then in one way only. Code that is not, and has the
characters of a path alone, is a path. The length of the code matters only after that.
-/

namespace PageTemplates.Segment

open Text (Blanks trimStart_append_of_blanks trimStart_cons_of_visible)
open Token (Stops takeWhile_append_of_stops dropWhile_append_of_stops)

/-! ## Splitting code -/

/-- An ASCII letter or digit, an underscore or a point. -/
def NamesPath (character : Char) : Prop :=
  character.isAlphanum = true ∨ character = '_' ∨ character = '.'

/-- How the argument of an include may be written: in quotes that do not stand in it, or
bare. -/
inductive Spells : IncludeTarget → List Char → Prop
  | quoted {mark : Char} {text : List Char} : mark = '\'' ∨ mark = '"' → text ≠ [] →
      mark ∉ text → Spells (.quoted (String.ofList text)) (mark :: (text ++ [mark]))
  | bare {text : List Char} : text ≠ [] → (∀ character ∈ text, NamesPath character) →
      Spells (.bare (String.ofList text)) text

/-- What may follow the closing parenthesis. -/
inductive Ends : List Char → Prop
  | here : Ends []
  | semicolon {blanks : List Char} : Blanks blanks → Ends (blanks ++ [';'])

/-- The parts of code of the include form, with blanks between them. -/
inductive Includes (argument : List Char) : List Char → Prop
  | intro {beforeOpening afterOpening beforeClosing ending : List Char} :
      Blanks beforeOpening → Blanks afterOpening → Blanks beforeClosing → Ends ending →
      Includes argument ("include".toList ++ (beforeOpening ++ '(' ::
        (afterOpening ++ (argument ++ (beforeClosing ++ ')' :: ending)))))

/-! ## Blanks and words -/

theorem exists_blanks_append_trimStart (text : List Char) :
    ∃ blanks, Blanks blanks ∧ blanks ++ Text.trimStart text = text :=
  ⟨_, Piece.blanks_takeWhile text, List.takeWhile_append_dropWhile⟩

theorem dropWord?_eq_some {word text rest : List Char} :
    dropWord? word text = some rest ↔ text = word ++ rest := by
  rw [dropWord?, Option.ite_none_right_eq_some, List.isPrefixOf_iff_prefix]
  constructor
  · rintro ⟨begins, equal⟩
    cases equal
    exact List.prefix_iff_eq_append.mp begins |>.symm
  · rintro rfl
    exact ⟨List.prefix_append _ _, by simp⟩

@[simp]
theorem isPathCharacter_iff {character : Char} :
    isPathCharacter character = true ↔ NamesPath character := by
  simp [isPathCharacter, NamesPath, Text.isAsciiWord, Char.isAlphanum, or_assoc]

/-! ## Arguments -/

section

variable {target other : IncludeTarget} {argument otherArgument code rest : List Char}

theorem Spells.visible (spells : Spells target argument) :
    ∃ first others, argument = first :: others ∧ Text.isBlank first = false := by
  cases spells with
  | quoted quote _ _ =>
      refine ⟨_, _, rfl, ?_⟩
      rcases quote with rfl | rfl <;> rfl
  | bare nonempty named =>
      rcases List.exists_cons_of_ne_nil nonempty with ⟨first, others, rfl⟩
      have inPath := isPathCharacter_iff.mpr (named first List.mem_cons_self)
      exact ⟨first, others, rfl, Token.isBlank_of_isPathCharacter inPath⟩

theorem Spells.cutTarget? (spells : Spells target argument)
    (stops : Stops isPathCharacter rest) :
    cutTarget? (argument ++ rest) = some (target, rest) := by
  cases spells with
  | @quoted mark text quote nonempty absent =>
      have inside : ∀ character ∈ text, (character != mark) = true := by
        intro character member
        simpa using fun same : character = mark => absent (same ▸ member)
      have closes : Stops (· != mark) (mark :: rest) := .cons (by simp) _
      rcases List.exists_cons_of_ne_nil nonempty with ⟨first, others, rfl⟩
      have quote : mark = '\'' || mark = '"' := by simpa using quote
      rw [List.cons_append, List.append_assoc, List.singleton_append, Segment.cutTarget?,
        if_pos quote, takeWhile_append_of_stops inside closes,
        dropWhile_append_of_stops inside closes]
  | bare nonempty named =>
      have inPath : ∀ character ∈ argument, isPathCharacter character = true :=
        fun character member => isPathCharacter_iff.mpr (named character member)
      have taken := takeWhile_append_of_stops inPath stops
      have dropped := dropWhile_append_of_stops inPath stops
      rcases List.exists_cons_of_ne_nil nonempty with ⟨first, others, rfl⟩
      have bare : ¬(first = '\'' || first = '"') := by
        have isPath := inPath first List.mem_cons_self
        rintro quote
        simp at quote
        rcases quote with rfl | rfl <;> exact absurd isPath (by decide)
      rw [List.cons_append] at taken dropped ⊢
      rw [Segment.cutTarget?, if_neg bare, taken, dropped]

theorem exists_of_cutTarget? (cut : Segment.cutTarget? code = some (target, rest)) :
    ∃ argument, code = argument ++ rest ∧ Spells target argument := by
  cases code with
  | nil => cases cut
  | cons first others =>
      rw [Segment.cutTarget?] at cut
      split at cut
      next quote =>
        have whole := List.takeWhile_append_dropWhile (p := (· != first)) (l := others)
        split at cut
        next head tail closing after isContent closes =>
          cases cut
          have isMark : closing = first := by
            have stops := Token.stops_dropWhile (· != first) others closing
            rw [closes] at stops
            simpa using stops rfl
          have absent : first ∉ head :: tail := by
            rw [← isContent]
            exact fun member => by simpa using List.mem_takeWhile_imp member
          rw [isContent, closes, isMark] at whole
          exact ⟨_, by simp [← whole], .quoted (by simpa using quote)
            (List.cons_ne_nil head tail) absent⟩
        next => cases cut
      next =>
        have whole := List.takeWhile_append_dropWhile (p := isPathCharacter) (l := first :: others)
        split at cut
        next => cases cut
        next nonempty =>
          cases cut
          refine ⟨_, whole.symm, .bare nonempty fun character member => ?_⟩
          exact isPathCharacter_iff.mp (List.mem_takeWhile_imp member)

/-! ## Code of the include form -/

/-- Where the parts of an include are found: what is cut at the argument begins with it. -/
theorem Includes.exists_cut (includes : Includes argument code)
    (spells : Spells target argument) :
    ∃ call inside rest tail, dropWord? "include".toList code = some call ∧
      dropWord? ['('] (Text.trimStart call) = some inside ∧
      Text.trimStart inside = argument ++ rest ∧
      Segment.cutTarget? (argument ++ rest) = some (target, rest) ∧
      dropWord? [')'] (Text.trimStart rest) = some tail ∧
      (Text.trimStart tail = [] ∨ Text.trimStart tail = [';']) := by
  rcases includes with @⟨beforeOpening, afterOpening, beforeClosing, ending, isBlank,
    isBlankAfter, isBlankClosing, ends⟩
  rcases spells.visible with ⟨first, others, begins, visible⟩
  have stops : Stops isPathCharacter (beforeClosing ++ ')' :: ending) := by
    cases beforeClosing with
    | nil => exact .cons (by decide) _
    | cons blank blanks =>
        refine .cons (Token.not_of_isBlank ?_ (isBlankClosing blank List.mem_cons_self)) _
        decide
  refine ⟨_, afterOpening ++ (argument ++ (beforeClosing ++ ')' :: ending)),
    beforeClosing ++ ')' :: ending, ending, dropWord?_eq_some.mpr rfl,
    dropWord?_eq_some.mpr ?_, ?_, spells.cutTarget? stops, dropWord?_eq_some.mpr ?_, ?_⟩
  · rw [trimStart_append_of_blanks isBlank, trimStart_cons_of_visible rfl]
    rfl
  · rw [trimStart_append_of_blanks isBlankAfter, begins, List.cons_append,
      trimStart_cons_of_visible visible]
  · rw [trimStart_append_of_blanks isBlankClosing, trimStart_cons_of_visible rfl]
    rfl
  · cases ends with
    | here => exact .inl rfl
    | semicolon blank =>
        rw [trimStart_append_of_blanks blank]
        exact .inr rfl

theorem Includes.includeTarget? (includes : Includes argument code)
    (spells : Spells target argument) : includeTarget? code = some target := by
  rcases includes.exists_cut spells with
    ⟨call, inside, rest, tail, called, opened, begins, cut, closed, ends⟩
  simp only [Segment.includeTarget?, called, opened, begins, cut, closed, Option.bind_eq_bind,
    Option.bind_some]
  rcases ends with ends | ends <;> rw [ends] <;> rfl

theorem Includes.unique (includes : Includes argument code) (spells : Spells target argument)
    (otherIncludes : Includes otherArgument code) (otherSpells : Spells other otherArgument) :
    argument = otherArgument ∧ target = other := by
  rcases includes.exists_cut spells with ⟨call, inside, rest, _, called, opened, begins, cut, _⟩
  rcases otherIncludes.exists_cut otherSpells with
    ⟨otherCall, otherInside, otherRest, _, otherCalled, otherOpened, otherBegins, otherCut, _⟩
  rw [called] at otherCalled
  cases otherCalled
  rw [opened] at otherOpened
  cases otherOpened
  rw [← begins, otherBegins, otherCut] at cut
  cases cut
  exact ⟨List.append_cancel_right (begins.symm.trans otherBegins), rfl⟩

theorem exists_includes_of_includeTarget? (trimmed : Text.trim code = code)
    (found : Segment.includeTarget? code = some target) :
    ∃ argument, Includes argument code ∧ Spells target argument := by
  simp only [Segment.includeTarget?, Option.bind_eq_bind, Option.bind_eq_some_iff,
    Option.ite_none_right_eq_some, Bool.or_eq_true, decide_eq_true_eq, Option.some.injEq] at found
  rcases found with
    ⟨call, called, inside, opened, ⟨cutTarget, after⟩, cut, tail, closed, ends, rfl⟩
  rcases exists_of_cutTarget? cut with ⟨argument, begins, spells⟩
  rcases exists_blanks_append_trimStart call with ⟨beforeOpening, blank, isCall⟩
  rcases exists_blanks_append_trimStart inside with ⟨afterOpening, blankAfter, isInside⟩
  rcases exists_blanks_append_trimStart after with ⟨beforeClosing, blankClosing, isAfter⟩
  rcases exists_blanks_append_trimStart tail with ⟨last, blankLast, isTail⟩
  rw [dropWord?_eq_some.mp opened] at isCall
  rw [begins] at isInside
  rw [dropWord?_eq_some.mp closed] at isAfter
  have whole : "include".toList ++ (beforeOpening ++ '(' ::
      (afterOpening ++ (argument ++ (beforeClosing ++ ')' :: tail)))) = code := by
    rw [dropWord?_eq_some.mp called, ← isCall, ← isInside, ← isAfter]
    rfl
  have ends : Ends tail := by
    rcases ends with empty | semicolon
    · have blankTail : Blanks tail := by
        rwa [← isTail, empty, List.append_nil]
      have noTail : tail = [] := by
        refine Text.eq_nil_of_trim_append ("include".toList ++ (beforeOpening ++ '(' ::
          (afterOpening ++ (argument ++ (beforeClosing ++ [')']))))) ?_ blankTail
        simpa [← whole] using trimmed
      rw [noTail]
      exact .here
    · rw [← isTail, semicolon]
      exact .semicolon blankLast
  exact ⟨argument, whole ▸ .intro blank blankAfter blankClosing ends, spells⟩

/-! ## Paths -/

theorem map_splitAt_eq_iff {names : List String} :
    (Text.splitAt '.' code).map String.ofList = names ↔
      names ≠ [] ∧ ".".intercalate names = String.ofList code ∧
        ∀ name ∈ names, '.' ∉ name.toList := by
  have parts : (Text.splitAt '.' code).map String.ofList = names ↔
      Text.splitAt '.' code = names.map String.toList := by
    constructor
    · rintro rfl
      simp
    · intro same
      simp [same]
  have joined : ".".intercalate names = String.ofList code ↔
      ['.'].intercalate (names.map String.toList) = code := by
    rw [← String.toList_inj]
    simp
  rw [parts, Text.splitAt_eq_iff, joined]
  simp

end

/-! ## Classes -/

/-- Code of the include form. -/
def IsInclude (code : List Char) : Prop :=
  ∃ argument target, Includes argument code ∧ Spells target argument

/-- Code of characters of paths alone. -/
def IsPath (code : List Char) : Prop :=
  code ≠ [] ∧ ∀ character ∈ code, NamesPath character

/-- The length of code in UTF-16 units: a character from U+10000 on counts twice. -/
def utf16Length (code : List Char) : Nat :=
  code.length + code.countP fun character => 0x10000 ≤ character.toNat

/-- The tree of code that is short enough and safe. -/
def IsExpression (code : List Char) (tree : Expr) : Prop :=
  utf16Length code ≤ 800 ∧ Expr.parse (String.ofList code) = .ok tree ∧ tree.isSafe = true

/-- What code becomes: the first of three classes that it belongs to decides, and code of
none is rejected. -/
inductive Becomes (code : List Char) : Segment → Prop
  | inclusion {argument : List Char} {target : IncludeTarget} :
      Includes argument code → Spells target argument → Becomes code (.inclusion target)
  | path {names : List String} : ¬IsInclude code → IsPath code → names ≠ [] →
      ".".intercalate names = String.ofList code → (∀ name ∈ names, '.' ∉ name.toList) →
      Becomes code (.path names)
  | expression {value : SafeExpr} : ¬IsInclude code → ¬IsPath code →
      IsExpression code value.tree → Becomes code (.expression value)
  | rejected : ¬IsInclude code → ¬IsPath code → (∀ tree, ¬IsExpression code tree) →
      Becomes code .rejected

section

variable {code : List Char} {segment : Segment}

theorem includeTarget?_eq_none_iff (trimmed : Text.trim code = code) :
    Segment.includeTarget? code = none ↔ ¬IsInclude code := by
  rw [← Option.not_isSome_iff_eq_none, not_iff_not, Option.isSome_iff_exists]
  constructor
  · rintro ⟨target, found⟩
    rcases exists_includes_of_includeTarget? trimmed found with ⟨argument, includes, spells⟩
    exact ⟨argument, target, includes, spells⟩
  · rintro ⟨argument, target, includes, spells⟩
    exact ⟨target, includes.includeTarget? spells⟩

@[simp]
theorem isPath_iff : isPath code = true ↔ IsPath code := by
  simp [isPath, IsPath]

theorem unitCount_ofList (code : List Char) :
    Text.unitCount (String.ofList code) = utf16Length code := by
  rw [Text.unitCount, Text.units, String.toList_ofList, Text.length_flatMap_characterUnits,
    utf16Length]

theorem safeExpression?_eq_some_iff {value : SafeExpr} :
    safeExpression? (String.ofList code) = some value ↔ IsExpression code value.tree := by
  rw [safeExpression?, IsExpression, unitCount_ofList]
  split
  next long =>
    have tooLong : ¬utf16Length code ≤ 800 := Nat.not_le.mpr long
    simp [tooLong]
  next short =>
    have fits : utf16Length code ≤ 800 := Nat.not_lt.mp short
    split
    next tree parsed =>
      rw [parsed, SafeExpr.ofTree?, Option.dite_none_right_eq_some]
      constructor
      · rintro ⟨safe, equal⟩
        cases equal
        exact ⟨fits, rfl, safe⟩
      · rintro ⟨-, same, safe⟩
        cases same
        exact ⟨safe, rfl⟩
    next parsed => simp [parsed]

theorem safeExpression?_eq_none_iff :
    safeExpression? (String.ofList code) = none ↔ ∀ tree, ¬IsExpression code tree := by
  rw [Option.eq_none_iff_forall_ne_some]
  constructor
  · intro none tree isExpression
    exact none ⟨tree, isExpression.2.2⟩ (safeExpression?_eq_some_iff.mpr isExpression)
  · intro none value found
    exact none value.tree (safeExpression?_eq_some_iff.mp found)

theorem becomes_ofCode (trimmed : Text.trim code = code) : Becomes code (ofCode code) := by
  unfold ofCode
  split
  next target found =>
    rcases exists_includes_of_includeTarget? trimmed found with ⟨argument, includes, spells⟩
    exact .inclusion includes spells
  next plain =>
    have noInclude := (includeTarget?_eq_none_iff trimmed).mp plain
    split
    next path =>
      rcases map_splitAt_eq_iff.mp rfl with ⟨nonempty, joined, apart⟩
      exact .path noInclude (isPath_iff.mp path) nonempty joined apart
    next path =>
      have noPath : ¬IsPath code := mt isPath_iff.mpr path
      split
      next accepted =>
        exact .expression noInclude noPath (safeExpression?_eq_some_iff.mp accepted)
      next refused => exact .rejected noInclude noPath (safeExpression?_eq_none_iff.mp refused)

theorem Becomes.ofCode_eq (trimmed : Text.trim code = code) (becomes : Becomes code segment) :
    ofCode code = segment := by
  cases becomes with
  | inclusion includes spells => rw [ofCode, includes.includeTarget? spells]
  | path noInclude isPath nonempty joined apart =>
      rw [ofCode, (includeTarget?_eq_none_iff trimmed).mpr noInclude]
      simp only [isPath_iff.mpr isPath, if_true,
        map_splitAt_eq_iff.mpr ⟨nonempty, joined, apart⟩]
  | expression noInclude noPath isExpression =>
      rw [ofCode, (includeTarget?_eq_none_iff trimmed).mpr noInclude]
      simp only [mt isPath_iff.mp noPath, safeExpression?_eq_some_iff.mpr isExpression]
      rfl
  | rejected noInclude noPath none =>
      rw [ofCode, (includeTarget?_eq_none_iff trimmed).mpr noInclude]
      simp only [mt isPath_iff.mp noPath, safeExpression?_eq_none_iff.mpr none]
      rfl

end

theorem trim_code_of_mem_all {source span code : List Char}
    (member : .tag span code ∈ Piece.all source) : Text.trim code = code := by
  induction source using Piece.all.induct with
  | case1 =>
      simp at member
  | case2 source nonempty induction =>
      rw [Piece.all_of_ne_nil nonempty, List.mem_cons] at member
      rcases member with first | later
      · rw [Piece.first] at first
        split at first
        · split at first
          · cases first
            simp
          · cases first
        · cases first
      · exact induction later

/-- The code of every tag is trimmed. Trimmed code becomes the segment of its class and no
other, and code of the include form splits in one way only. -/
theorem ofCode_eq_iff_becomes :
    (∀ {source span code : List Char}, .tag span code ∈ Piece.all source →
      Text.trim code = code) ∧
      ∀ {code : List Char}, Text.trim code = code →
        (∀ segment, ofCode code = segment ↔ Becomes code segment) ∧
          ∀ {argument otherArgument : List Char} {target other : IncludeTarget},
            Includes argument code → Spells target argument →
            Includes otherArgument code → Spells other otherArgument →
            argument = otherArgument ∧ target = other := by
  refine ⟨trim_code_of_mem_all, fun trimmed => ⟨fun segment => ⟨?_, ?_⟩, Includes.unique⟩⟩
  · rintro rfl
    exact becomes_ofCode trimmed
  · exact Becomes.ofCode_eq trimmed

/-- A quoted argument may hold what ends an include, and a path may begin with a digit. -/
theorem ofCode_eq_iff_becomes_of_quoted_ending :
    let source := "\x7b\x7b include ( \"it's);\" )\n; \x7d\x7d\x7b\x7b2..b_\x7d\x7d".toList
    let code := "include ( \"it's);\" )\n;".toList
    (∃ argument, Includes argument code ∧ Spells (.quoted "it's);") argument ∧
      ∀ other target, Includes other code → Spells target other →
        other = argument ∧ target = .quoted "it's);") ∧
      Becomes "2..b_".toList (.path ["2", "", "b_"]) ∧
      Piece.all source = [.tag "\x7b\x7b include ( \"it's);\" )\n; \x7d\x7d".toList code,
        .tag "\x7b\x7b2..b_\x7d\x7d".toList "2..b_".toList] := by
  intro source code
  have pieces : Piece.all source =
      [.tag "\x7b\x7b include ( \"it's);\" )\n; \x7d\x7d".toList code,
        .tag "\x7b\x7b2..b_\x7d\x7d".toList "2..b_".toList] := by decide +kernel
  have classes {span text : List Char} (member : .tag span text ∈ Piece.all source) :=
    ofCode_eq_iff_becomes.2 (ofCode_eq_iff_becomes.1 member)
  have called := classes (by rw [pieces]; exact List.mem_cons_self)
  have path := classes (by rw [pieces]; exact List.mem_cons_of_mem _ List.mem_cons_self)
  refine ⟨?_, (path.1 _).mp (by rfl), pieces⟩
  cases (called.1 (.inclusion (.quoted "it's);"))).mp (by rfl) with
  | inclusion includes spells =>
      exact ⟨_, includes, spells, fun _ _ otherIncludes otherSpells =>
        called.2 otherIncludes otherSpells includes spells⟩

end PageTemplates.Segment
