import Mathlib.Data.List.Find
import Mathlib.Data.List.Forall2
import PageTemplates.Proofs.Except
import PageTemplates.Proofs.Scan.Literal
import PageTemplates.Proofs.Scan.Remainder

/-! # Texts of tokens

What the scanner takes for a token is a text that it reads as the same token in any source
that the text begins, if a blank or nothing follows it there: what a token is does not
depend on the token after it.
-/

namespace PageTemplates.Token

def isName : List Char → Bool
  | [] => false
  | first :: rest => isNameStart first && rest.all isNameCharacter

/-! ## Characters that begin tokens -/

theorem skipTrivia_of_visible {first : Char} (visible : Text.isBlank first = false)
    {rest : List Char}
    (noComment : first = '/' → Stops (fun next => next = '/' || next = '*') rest) :
    skipTrivia (first :: rest) = .ok (first :: rest) := by
  rw [skipTrivia]
  · simp [visible]
  · rintro after equal rfl
    cases noComment equal '/' rfl
  · rintro after equal rfl
    cases noComment equal '*' rfl

theorem isNameCharacter_of_isNameStart {character : Char}
    (start : isNameStart character = true) : isNameCharacter character = true := by
  simp only [isNameStart, isNameCharacter, Bool.or_eq_true] at start ⊢
  exact .inl start

theorem isBlank_of_isNameStart {character : Char} (start : isNameStart character = true) :
    Text.isBlank character = false :=
  isBlank_of_accepts (by decide +kernel) (isNameCharacter_of_isNameStart start)

theorem toNat_of_isDigit {character : Char} (digit : character.isDigit = true) :
    character.toNat ∈ List.range' 48 10 := by
  simp only [Char.isDigit, Bool.and_eq_true, decide_eq_true_eq, ge_iff_le,
    UInt32.le_iff_toNat_le] at digit
  rw [List.mem_range'_1]
  exact ⟨digit.1, Nat.lt_succ_of_le digit.2⟩

/-- A class without digits. -/
theorem not_of_isDigit {accepts : Char → Bool}
    (without : ∀ code ∈ List.range' 48 10, accepts (Char.ofNat code) = false)
    {character : Char} (digit : character.isDigit = true) : accepts character = false := by
  rw [← Char.ofNat_toNat character]
  exact without _ (toNat_of_isDigit digit)

theorem isDigit_of_isNameStart {character : Char} (start : isNameStart character = true) :
    character.isDigit = false := by
  cases digit : character.isDigit with
  | false => rfl
  | true =>
      have noStart : isNameStart character = false := not_of_isDigit (by decide +kernel) digit
      rw [start] at noStart
      cases noStart

/-! ## One token -/

/-- A text is read as a token wherever a source begins with it and it is not gone on with. -/
def IsReadAs (token : Token) (text : String) : Prop :=
  ∃ first more, text.toList = first :: more ∧ ∀ rest, Breaks rest →
    skipTrivia (first :: (more ++ rest)) = .ok (first :: (more ++ rest)) ∧
      scanToken first (more ++ rest) = .ok (token, rest)

theorem isReadAs_word {name : String} (isName : isName name.toList = true) :
    IsReadAs (.word name) name := by
  cases text : name.toList with
  | nil =>
      rw [text] at isName
      cases isName
  | cons first more =>
      rw [text, Token.isName, Bool.and_eq_true, List.all_eq_true] at isName
      rcases isName with ⟨start, others⟩
      have all : ∀ character ∈ first :: more, isNameCharacter character = true :=
        List.forall_mem_cons.mpr ⟨isNameCharacter_of_isNameStart start, others⟩
      have noPoint : first ≠ '.' := by
        rintro rfl
        cases start
      have noQuote : ¬ (first = '\'' ∨ first = '"') := by
        rintro (rfl | rfl) <;> cases start
      have noSlash : first ≠ '/' := by
        rintro rfl
        cases start
      refine ⟨first, more, text, fun rest breaks => ?_⟩
      have stops : Stops isNameCharacter rest := breaks.stops (by decide +kernel)
      have noNumber : startsNumber (first :: (more ++ rest)) = false := by
        rw [startsNumber]
        · exact isDigit_of_isNameStart start
        · rintro digit after equal -
          exact noPoint equal
      refine ⟨skipTrivia_of_visible (isBlank_of_isNameStart start) (absurd · noSlash), ?_⟩
      rw [scanToken, noNumber, if_neg Bool.false_ne_true, if_neg noQuote, if_pos start,
        ← List.cons_append, takeWhile_append_of_stops all stops,
        dropWhile_append_of_stops all stops, ← text, String.ofList_toList]

/-- What stands between two quotes is a string wherever its units are read from it. -/
theorem isReadAs_quoted {quote : Char} (isQuote : IsQuote quote) {body : List Char}
    {units : List Text.CodeUnit}
    (read : ∀ rest, scanUnits quote (body ++ quote :: rest) = .ok (units, rest)) :
    IsReadAs (.string (String.ofList (Text.ofUnits units)))
      (String.ofList (quote :: (body ++ [quote]))) := by
  refine ⟨quote, body ++ [quote], String.toList_ofList, fun rest _ => ⟨?_, ?_⟩⟩
  · rcases isQuote with rfl | rfl
    · exact skipTrivia_of_visible (by decide) nofun
    · exact skipTrivia_of_visible (by decide) nofun
  · have noNumber (after : List Char) : startsNumber (quote :: after) = false := by
      rcases isQuote with rfl | rfl <;> rfl
    have begins : quote = '\'' ∨ quote = '"' := isQuote
    rw [scanToken, noNumber, if_neg Bool.false_ne_true, if_pos begins, List.append_assoc,
      List.singleton_append, read]
    rfl

/-! ## Symbols -/

/-- The characters that a symbol begins with: visible, not those of another kind of token,
and not those of a comment. -/
def beginsSymbol : List Char → Bool
  | [] => false
  | first :: rest =>
      !Text.isBlank first && !first.isDigit && first != '\'' && first != '"' &&
        !isNameStart first &&
        match rest.head? with
        | none => true
        | some second =>
            !(first == '.' && second.isDigit) &&
              !(first == '/' && (second == '/' || second == '*'))

theorem beginsSymbol_of_mem {spelling : String} (member : spelling ∈ symbols) :
    beginsSymbol spelling.toList = true := by
  have all : ∀ spelling ∈ symbols, beginsSymbol spelling.toList = true := by decide +kernel
  exact all spelling member

theorem beginsSymbol_append {text : List Char} (begins : beginsSymbol text = true)
    {rest : List Char} (breaks : Breaks rest) : beginsSymbol (text ++ rest) = true := by
  rcases text with - | ⟨first, - | ⟨second, text⟩⟩
  · cases begins
  · cases rest with
    | nil => exact begins
    | cons second rest =>
        have noSecond : second.isDigit = false ∧ second ≠ '/' ∧ second ≠ '*' := by
          have blank := breaks second rfl
          refine ⟨not_of_isBlank (by decide +kernel) blank, ?_, ?_⟩
          · rintro rfl
            cases blank
          · rintro rfl
            cases blank
        simpa [beginsSymbol, noSecond] using begins
  · exact begins

/-- No symbol goes on with a blank, so the symbols that a source begins with before a break
are those that the text begins with. -/
theorem isPrefixOf_append_of_breaks {symbol : String} (member : symbol ∈ symbols)
    (text : List Char) {rest : List Char} (breaks : Breaks rest) :
    symbol.toList.isPrefixOf (text ++ rest) = symbol.toList.isPrefixOf text := by
  have visible : ∀ symbol ∈ symbols,
      (symbol.toList.all fun character => !Text.isBlank character) = true := by decide +kernel
  have visible := visible symbol member
  generalize symbol.toList = spelling at visible ⊢
  induction spelling generalizing text with
  | nil => simp [List.isPrefixOf]
  | cons first spelling induction =>
      rw [List.all_cons, Bool.and_eq_true, Bool.not_eq_true'] at visible
      cases text with
      | cons character text =>
          rw [List.cons_append, List.isPrefixOf, List.isPrefixOf, induction text visible.2]
      | nil =>
          cases rest with
          | nil => rfl
          | cons blank rest =>
              have other : first ≠ blank := by
                rintro rfl
                rw [breaks first rfl] at visible
                cases visible.1
              simp [List.isPrefixOf, other]

/-- Of the symbols that a symbol begins with, it is the first one itself. -/
theorem scanSymbol?_append {spelling : String} (member : spelling ∈ symbols)
    {rest : List Char} (breaks : Breaks rest) :
    scanSymbol? (spelling.toList ++ rest) = some (spelling, rest) := by
  have longest : ∀ spelling ∈ symbols,
      (symbols.find? fun symbol => symbol.toList.isPrefixOf spelling.toList) =
        some spelling := by decide +kernel
  have found : (symbols.find? fun symbol => symbol.toList.isPrefixOf (spelling.toList ++ rest)) =
      some spelling := by
    rw [List.find?_congr fun symbol inSymbols =>
      isPrefixOf_append_of_breaks inSymbols spelling.toList breaks]
    exact longest spelling member
  rw [scanSymbol?, found, Option.map_some, List.drop_left]

theorem isReadAs_symbol {spelling : String} (member : spelling ∈ symbols) :
    IsReadAs (.symbol spelling) spelling := by
  have begins := beginsSymbol_of_mem member
  cases text : spelling.toList with
  | nil =>
      rw [text] at begins
      cases begins
  | cons first more =>
      refine ⟨first, more, text, fun rest breaks => ?_⟩
      rw [text] at begins
      have whole := beginsSymbol_append begins breaks
      have symbol := scanSymbol?_append member breaks
      rw [text] at symbol
      rw [List.cons_append] at whole symbol
      simp only [beginsSymbol, Bool.and_eq_true, Bool.not_eq_true', bne_iff_ne] at whole
      rcases whole with ⟨⟨⟨⟨⟨visible, noDigit⟩, noQuote⟩, noDoubleQuote⟩, noName⟩, second⟩
      constructor
      · refine skipTrivia_of_visible visible ?_
        rintro rfl next isNext
        simpa [Option.mem_def.mp isNext] using second
      · have noNumber : startsNumber (first :: (more ++ rest)) = false := by
          unfold startsNumber
          split
          next digit after equal =>
            rcases List.cons.inj equal with ⟨rfl, tail⟩
            rw [tail] at second
            simpa using second
          next character after _ equal =>
            cases equal
            exact noDigit
          next equal => cases equal
        rw [scanToken, noNumber, if_neg Bool.false_ne_true,
          if_neg (not_or.mpr ⟨noQuote, noDoubleQuote⟩), noName, if_neg Bool.false_ne_true,
          symbol]

/-- The longest of the symbols that a source begins with. -/
structure IsLongestSymbol (spelling : String) (source : List Char) : Prop where
  known : spelling ∈ symbols
  begins : spelling.toList <+: source
  longest : ∀ other ∈ symbols, other.toList <+: source → other.length ≤ spelling.length

theorem isLongestSymbol_of_scanSymbol? {source after : List Char} {spelling : String}
    (scanned : scanSymbol? source = some (spelling, after)) :
    IsLongestSymbol spelling source ∧ spelling.toList ++ after = source := by
  have sorted : symbols.Pairwise fun one next => next.length ≤ one.length := by
    decide +kernel
  rcases Option.map_eq_some_iff.mp scanned with ⟨found, search, equal⟩
  cases equal
  rcases List.find?_eq_some_iff_append.mp search with ⟨begins, before, after, split, none⟩
  rw [split, List.pairwise_append, List.pairwise_cons] at sorted
  have isPrefix := List.isPrefixOf_iff_prefix.mp begins
  refine ⟨⟨List.mem_of_find?_eq_some search, isPrefix, fun other known starts => ?_⟩,
    Text.append_of_isPrefixOf begins⟩
  rw [split, List.mem_append, List.mem_cons] at known
  rcases known with earlier | rfl | later
  · have absent := none other earlier
    rw [List.isPrefixOf_iff_prefix.mpr starts] at absent
    cases absent
  · exact Nat.le_refl _
  · exact sorted.2.1.1 other later

/-! ## Numbers -/

theorem isReadAs_of_isNumber {value : Float} {text : String}
    (number : IsNumber text.toList value) : IsReadAs (.number value) text := by
  have starts := number.startsNumber
  cases same : text.toList with
  | nil =>
      rw [same] at starts
      cases starts
  | cons first more =>
      rw [same] at number starts
      refine ⟨first, more, same, fun rest breaks => ⟨?_, ?_⟩⟩
      · have begins := begins_of_startsNumber starts
        refine skipTrivia_of_visible ?_ ?_
        · rcases begins with rfl | digit
          · decide
          · exact not_of_isDigit (by decide +kernel) digit
        · rintro rfl
          rcases begins with equal | digit
          · cases equal
          · cases digit
      · have startsAll := startsNumber_append starts rest
        have read := scanNumber_append number breaks
        rw [List.cons_append] at startsAll read
        rw [scanToken, startsAll, if_pos rfl, read]
        rfl

/-! ## What a token takes -/

/-- What a token takes of a source is read as that token wherever nothing or a blank
follows it. -/
theorem exists_of_scanToken {first : Char} {rest after : List Char} {token : Token}
    (scanned : scanToken first rest = .ok (token, after)) :
    ∃ text : String, text.toList ++ after = first :: rest ∧ IsReadAs token text ∧
      ∀ spelling, token = .symbol spelling →
        text = spelling ∧ IsLongestSymbol text (first :: rest) := by
  unfold scanToken at scanned
  split at scanned
  next =>
    rcases exists_of_map_eq_ok scanned with ⟨⟨value, left⟩, read, equal⟩
    cases equal
    rcases isNumber_of_scanNumber read with ⟨text, number, whole⟩
    exact ⟨String.ofList text, by rwa [String.toList_ofList],
      isReadAs_of_isNumber (by rwa [String.toList_ofList]), nofun⟩
  next =>
    split at scanned
    next isQuote =>
      rcases exists_of_map_eq_ok scanned with ⟨⟨units, left⟩, read, equal⟩
      cases equal
      rcases exists_of_scanUnits read with ⟨body, rfl, again⟩
      exact ⟨String.ofList (first :: (body ++ [first])), by simp,
        isReadAs_quoted isQuote again, nofun⟩
    next =>
      split at scanned
      next start =>
        cases scanned
        refine ⟨_, ?_, isReadAs_word ?_, nofun⟩
        · rw [String.toList_ofList, List.takeWhile_append_dropWhile]
        · rw [String.toList_ofList,
            List.takeWhile_cons_of_pos (isNameCharacter_of_isNameStart start), isName, start,
            Bool.true_and, List.all_eq_true]
          exact fun _ => List.mem_takeWhile_imp
      next =>
        split at scanned
        next spelling left symbol =>
          cases scanned
          rcases isLongestSymbol_of_scanSymbol? symbol with ⟨longest, whole⟩
          refine ⟨spelling, whole, isReadAs_symbol longest.known, fun other equal => ?_⟩
          cases equal
          exact ⟨rfl, longest⟩
        next => cases scanned

theorem IsReadAs.ne_empty {token : Token} {text : String} (read : IsReadAs token text) :
    text ≠ "" := by
  rintro rfl
  rcases read with ⟨first, more, equal, -⟩
  cases equal

/-! ## Successive tokens -/

theorem scanFrom_space (total : Nat) (rest : List Char) :
    scanFrom total (' ' :: rest) = scanFrom total rest := by
  have skipped : skipTrivia (' ' :: rest) = skipTrivia rest := by
    rw [skipTrivia]
    · rfl
    · rintro after equal -
      cases equal
    · rintro after equal -
      cases equal
  rw [scanFrom_eq, scanFrom_eq, skipped]

theorem IsReadAs.scanFrom {token : Token} {text : String} (read : IsReadAs token text)
    {rest : List Char} (breaks : Breaks rest) (total : Nat) :
    scanFrom total (text.toList ++ rest) =
      (scanFrom total rest).map
        (⟨token, total - byteLength (text.toList ++ rest), total - byteLength rest⟩ :: ·) := by
  rcases read with ⟨first, more, same, reads⟩
  rcases reads rest breaks with ⟨skipped, scanned⟩
  rw [same, List.cons_append, scanFrom_eq, skipped]
  dsimp only
  rw [scanned]

/-- Texts with spaces between them are scanned as the tokens that they stand for. -/
theorem scanFrom_intercalate {tokens : List Token} {texts : List String}
    (read : List.Forall₂ IsReadAs tokens texts) (total : Nat) :
    ∃ placed, scanFrom total ([' '].intercalate (texts.map String.toList)) = .ok placed ∧
      placed.map (·.token) = tokens := by
  induction read with
  | nil =>
      refine ⟨[], ?_, rfl⟩
      rw [scanFrom_eq, List.map_nil, List.intercalate_nil, skipTrivia]
  | @cons token text tokens texts readFirst readRest induction =>
      rcases induction with ⟨placed, scanned, same⟩
      cases texts with
      | nil =>
          have step := readFirst.scanFrom .nil total
          rw [List.append_nil] at step
          rw [List.map_nil, List.intercalate_nil] at scanned
          rw [List.map_singleton, List.intercalate_singleton, step, scanned]
          exact ⟨_, rfl, by rw [List.map_cons, same]⟩
      | cons next texts =>
          have breaks := Breaks.space
            ([' '].intercalate ((next :: texts).map String.toList))
          have step := readFirst.scanFrom breaks total
          rw [scanFrom_space, scanned] at step
          rw [List.map_cons, List.map_cons, List.intercalate_cons_cons, List.append_assoc,
            List.singleton_append, ← List.map_cons, step]
          exact ⟨_, rfl, by rw [List.map_cons, same]⟩

theorem scan_intercalate_of_isReadAs {tokens : List Token} {texts : List String}
    (read : List.Forall₂ IsReadAs tokens texts) :
    ∃ placed, scan (" ".intercalate texts) = .ok placed ∧ placed.map (·.token) = tokens := by
  have source : (" ".intercalate texts).toList =
      [' '].intercalate (texts.map String.toList) := String.toList_intercalate
  rcases scanFrom_intercalate read (byteLength (" ".intercalate texts).toList) with
    ⟨placed, scanned, same⟩
  refine ⟨placed, ?_, same⟩
  rw [← source] at scanned
  rw [scan]
  simp only [scanned]

/-! ## A token alone -/

@[simp]
theorem scanFrom_nil (total : Nat) : scanFrom total [] = .ok [] := by
  rw [scanFrom_eq, skipTrivia]

/-- A text that is read as a token is scanned as that token, from its first byte to its
last. -/
theorem IsReadAs.scan {token : Token} {text : String} (read : IsReadAs token text) :
    scan text = .ok [⟨token, 0, byteLength text.toList⟩] := by
  have step := read.scanFrom .nil (byteLength text.toList)
  simp only [List.append_nil] at step
  simp [Token.scan, step, byteLength]

@[simp]
theorem byteLength_append (left right : List Char) :
    byteLength (left ++ right) = byteLength left + byteLength right := by
  induction left with
  | nil => simp [byteLength]
  | cons character left induction => simp [byteLength, induction, Nat.add_assoc]

theorem byteLength_eq_zero {text : List Char} (empty : byteLength text = 0) : text = [] := by
  cases text with
  | nil => rfl
  | cons character text =>
      have := character.utf8Size_pos
      simp only [byteLength] at empty
      omega

/-- An end of a text that has as many bytes is the whole of it. -/
theorem eq_of_suffix_of_byteLength_le {text rest : List Char} (ends : rest <:+ text)
    (enough : byteLength text ≤ byteLength rest) : rest = text := by
  rcases ends with ⟨before, rfl⟩
  rw [byteLength_append] at enough
  have empty : before = [] := byteLength_eq_zero (by omega)
  rw [empty, List.nil_append]

/-- The only token of a source is the whole source if it takes all its bytes. -/
theorem scanToken_of_scan {text : String} {token : Token}
    (scanned : scan text = .ok [⟨token, 0, byteLength text.toList⟩]) :
    ∃ first more, text.toList = first :: more ∧ scanToken first more = .ok (token, []) := by
  simp only [scan] at scanned
  split at scanned <;> cases scanned
  next found =>
    rw [scanFrom_eq] at found
    split at found
    next => cases found
    next => cases found
    next first more skipped =>
      split at found
      next => cases found
      next after read =>
        rcases exists_of_map_eq_ok found with ⟨others, -, equal⟩
        simp only [List.cons.injEq, Placed.mk.injEq] at equal
        rcases equal with ⟨⟨rfl, start, stop⟩, -⟩
        have whole : first :: more = text.toList :=
          eq_of_suffix_of_byteLength_le (skipTrivia_suffix skipped) (by omega)
        have positive : 0 < byteLength text.toList := by
          rw [← whole, byteLength]
          exact Nat.add_pos_left first.utf8Size_pos _
        have ended : after = [] := byteLength_eq_zero (by omega)
        subst ended
        exact ⟨first, more, whole.symm, read⟩

/-- Conversely, a text that is scanned alone as a token is read as that token anywhere. -/
theorem isReadAs_of_scan {token : Token} {text : String}
    (scanned : scan text = .ok [⟨token, 0, byteLength text.toList⟩]) : IsReadAs token text := by
  rcases scanToken_of_scan scanned with ⟨first, more, same, read⟩
  rcases exists_of_scanToken read with ⟨whole, equal, isRead, -⟩
  rw [List.append_nil, ← same, String.toList_inj] at equal
  exact equal ▸ isRead

end PageTemplates.Token
