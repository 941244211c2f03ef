import PageTemplates.Proofs.Grammar.Reading

/-! # What is derived is read

The rule of a rank reads every derivation of the rank. There is one lemma for each
production, which takes the parts as read; the theorem puts them together by induction on
the derivation.
-/

namespace PageTemplates.Grammar

/-! ## First tokens -/

/-- Whether a token may begin a primary expression. -/
def startsPrimary : Token → Bool
  | .symbol spelling => spelling ∈ ["(", "[", "\x7b"]
  | .word name => name ∉ ["typeof", "void"]
  | _ => true

/-- The tokens that a phrase may begin with, where it cannot be empty. -/
def Phrase.StartsWith : Phrase → Token → Prop
  | .expression .member _, token | .expression .primary _, token => startsPrimary token = true
  | .expression _ _, token =>
      startsPrimary token = true ∨ ∃ operator : UnaryOperator, token = operator.token
  | .entry _ _, token => ∃ key, Names token key
  | .elements _, _ | .entries _, _ => True

/-- Whether a phrase holds at least one token. -/
def Phrase.isSolid : Phrase → Bool
  | .elements _ | .entries _ => false
  | _ => true

theorem Derives.head {phrase : Phrase} {words : List Token} {depth : Nat}
    (derived : Derives phrase words depth) (solid : phrase.isSolid = true) :
    ∃ token others, words = token :: others ∧ phrase.StartsWith token := by
  induction derived with
  | noElements | noEntries => cases solid
  | hole | element | lastElement | field | lastField => cases solid
  | test _ induction | uncoalesced _ induction | coalescedOperand _ induction
  | conjunction _ induction | operand _ induction | power _ induction | tighter _ induction
  | unary _ induction | primary _ induction => exact induction rfl
  | branches _ _ _ induction | coalesced _ _ induction | coalescedMore _ _ induction
  | or _ _ induction | and _ _ induction | binary _ _ _ induction | property _ _ induction =>
      rcases induction rfl with ⟨token, others, rfl, starts⟩
      exact ⟨token, _, rfl, starts⟩
  | raise _ _ induction =>
      rcases induction rfl with ⟨token, others, rfl, starts⟩
      exact ⟨token, _, rfl, .inl starts⟩
  | member _ induction =>
      rcases induction rfl with ⟨token, others, rfl, starts⟩
      exact ⟨token, _, rfl, .inl starts⟩
  | apply operator _ _ => exact ⟨_, _, rfl, .inr ⟨operator, rfl⟩⟩
  | constant constant =>
      refine ⟨_, _, rfl, ?_⟩
      cases constant <;> rfl
  | @identifier name free =>
      refine ⟨_, _, rfl, ?_⟩
      show startsPrimary (.word name) = true
      have ordinary : name ∉ ["typeof", "void"] := by
        intro member
        simp only [List.mem_cons, List.not_mem_nil, or_false] at member
        rcases member with rfl | rfl <;> exact absurd free (by decide)
      exact decide_eq_true ordinary
  | bracketed | array | object => exact ⟨_, _, rfl, rfl⟩
  | keyed names _ _ => exact ⟨_, _, rfl, _, names⟩
  | shorthand _ => exact ⟨_, _, rfl, _, .word _⟩

theorem unaryOperator?_eq_none {placed : Token.Placed} {rest : Tokens}
    (starts : startsPrimary placed.token = true) :
    unaryOperator? (placed :: rest) = none := by
  rw [unaryOperator?, Option.map_eq_none_iff, List.find?_eq_none]
  intro operator _ matched
  have spelled : placed.token = operator.token := Option.some.inj (of_decide_eq_true matched)
  rw [spelled] at starts
  cases operator <;> exact absurd starts (by decide)

/-! ## Conditionals -/

section Productions

variable {levels depth otherDepth : Nat} {words otherWords : List Token}
  {tree left right : Expr}

theorem reads_test (reads : ∀ levels, Reads levels .coalescing tree words depth) :
    Reads levels .conditional tree words (depth + 1) := by
  intro read rest spelled ends
  apply Finds.deeper
  intro lower
  rw [rules_whole]
  apply ((reads lower).closed spelled (ends.of_subset (List.subset_cons_self _ _))).bind_flat
  simp only [ends.eat?_eq_none "?" List.mem_cons_self]
  rfl

theorem reads_branches {test consequent alternate : Expr}
    {testWords consequentWords alternateWords : List Token}
    {testDepth consequentDepth alternateDepth : Nat}
    (testReads : ∀ levels, Reads levels .coalescing test testWords testDepth)
    (consequentReads : ∀ levels,
      Reads levels .conditional consequent consequentWords consequentDepth)
    (alternateReads : ∀ levels,
      Reads levels .conditional alternate alternateWords alternateDepth) :
    Reads levels .conditional (.conditional test consequent alternate)
      (testWords ++ .symbol "?" :: (consequentWords ++ .symbol ":" :: alternateWords))
      (max testDepth (max consequentDepth alternateDepth) + 1) := by
  intro read rest spelled ends
  rcases exists_of_map_eq_append_cons spelled with
    ⟨testRead, mark, others, rfl, testSpelled, markSpelled, othersSpelled⟩
  rcases exists_of_map_eq_append_cons othersSpelled with
    ⟨firstRead, colon, secondRead, rfl, firstSpelled, colonSpelled, secondSpelled⟩
  rw [List.append_assoc, List.cons_append, List.append_assoc, List.cons_append]
  apply Finds.deeper
  intro lower
  rw [rules_whole]
  apply ((testReads lower).closed testSpelled (ends_cons (by rw [markSpelled]; decide))).bind
  simp only [eat?_cons markSpelled]
  apply ((consequentReads lower).closed firstSpelled
    (ends_cons (by rw [colonSpelled]; decide))).bind
  simp only [expect_cons colonSpelled]
  exact ((alternateReads lower).closed secondSpelled ends).bind_flat rfl

/-! ## Coalescing -/

theorem reads_uncoalesced (reads : Reads levels .disjunction tree words depth) :
    Reads levels .coalescing tree words depth := by
  intro read rest spelled ends
  apply (reads.closed spelled (ends.of_subset (List.subset_cons_self _ _))).bind_flat
  simp only [ends.eat?_eq_none "??" List.mem_cons_self]
  rfl

theorem refuseMixed_of_operand {read rest : Tokens}
    (derived : Derives (.expression .operand tree) words depth)
    (spelled : read.map (·.token) = words) :
    refuseMixed (read ++ rest) rest = .ok () := by
  have taken : (read ++ rest).take ((read ++ rest).length - rest.length) = read := by simp
  have unmixed := derived.skips 0 nofun read [] spelled
  rw [List.append_nil] at unmixed
  rw [refuseMixed, taken, unmixed]
  rfl

theorem reads_coalescedOperand (derived : Derives (.expression .operand tree) words depth)
    (reads : Reads levels .disjunction tree words depth) :
    Reads levels .coalesced tree words depth := by
  intro read rest spelled ends
  apply (reads.closed spelled ends).bind_flat
  refine ⟨rest.length, Nat.le_refl _, ?_⟩
  simp only
  split
  · rw [refuseMixed_of_operand derived spelled]
    rfl
  · rename_i stops
    have stops : eat? "??" rest = none := by simpa using stops
    cases rest with
    | nil => rfl
    | cons placed rest =>
        rw [List.length_cons, coalesceFrom, stops]
        rfl

theorem reads_coalescedMore (reads : Reads levels .coalesced left words depth)
    (derived : Derives (.expression .operand right) otherWords otherDepth)
    (otherReads : Reads levels .disjunction right otherWords otherDepth) :
    Reads levels .coalesced (.logical .coalesce left right)
      (words ++ .symbol "??" :: otherWords) (max depth otherDepth) := by
  intro read rest spelled ends
  rcases exists_of_map_eq_append_cons spelled with
    ⟨first, placed, second, rfl, firstSpelled, placedSpelled, secondSpelled⟩
  rw [List.append_assoc, List.cons_append]
  apply (reads first _ firstSpelled (ends_cons (by rw [placedSpelled]; decide))).trans
  rintro ⟨fuel, enough, equal⟩
  rw [equal]
  cases fuel with
  | zero => exact absurd enough (Nat.not_succ_le_zero _)
  | succ fuel =>
      rw [coalesceFrom, eat?_cons placedSpelled]
      apply (otherReads.closed secondSpelled ends).bind_flat
      refine ⟨fuel, ?_, ?_⟩
      · simp only [List.length_cons, List.length_append] at enough
        omega
      · simp only [refuseMixed_of_operand derived secondSpelled]
        rfl

theorem reads_coalesced
    (reads : Reads levels .coalesced (.logical .coalesce left right) words depth) :
    Reads levels .coalescing (.logical .coalesce left right) words depth := by
  intro read rest spelled ends
  exact reads.closed spelled ends

/-! ## Chains of operators -/

theorem reads_conjunction (reads : Reads levels .conjunction tree words depth) :
    Reads levels .disjunction tree words depth := by
  intro read rest spelled ends
  exact finds_chain_first (reads.closed spelled ends)

theorem reads_operand (reads : Reads levels .operand tree words depth) :
    Reads levels .conjunction tree words depth := by
  intro read rest spelled ends
  exact finds_chain_first (reads.closed spelled ends)

theorem reads_tighter {level : List BinaryOperator} {tighter : List (List BinaryOperator)}
    (reads : Reads levels (.binary tighter) tree words depth) :
    Reads levels (.binary (level :: tighter)) tree words depth := by
  intro read rest spelled ends
  exact finds_chain_first (reads.closed spelled ends)

/-- One more operand of a chain, after a token that does not go on with an operand. -/
theorem reads_joined {rank : Rank} {joint : Joint} {join : Expr → Expr → Expr}
    {token : Token}
    (continues : ∀ tree rest, Continues levels rank tree rest =
      GoesOn joint (ruleAt levels rank.inner) tree rest)
    (stops : token ∉ rank.inner.continuations)
    (joins : ∀ (placed : Token.Placed) rest, placed.token = token →
      joint (placed :: rest) = some (join, rest))
    (reads : Reads levels rank left words depth)
    (otherReads : Reads levels rank.inner right otherWords otherDepth) :
    Reads levels rank (join left right) (words ++ token :: otherWords)
      (max depth otherDepth) := by
  intro read rest spelled ends
  rcases exists_of_map_eq_append_cons spelled with
    ⟨first, placed, second, rfl, firstSpelled, placedSpelled, secondSpelled⟩
  rw [List.append_assoc, List.cons_append, continues]
  have firstFound := reads first (placed :: (second ++ rest)) firstSpelled
    (ends_cons (by rw [placedSpelled]; exact stops))
  rw [continues] at firstFound
  have shorter : rest.length ≤ (second ++ rest).length := by
    rw [List.length_append]
    omega
  exact finds_chain_more firstFound (joins placed _ placedSpelled)
    (otherReads.closed secondSpelled ends) shorter

theorem reads_or (reads : Reads levels .disjunction left words depth)
    (otherReads : Reads levels .conjunction right otherWords otherDepth) :
    Reads levels .disjunction (.logical .or left right)
      (words ++ .symbol "||" :: otherWords) (max depth otherDepth) :=
  reads_joined (fun _ _ => rfl) (by decide) (fun _ _ spelled => logicalJoint_cons spelled)
    reads otherReads

theorem reads_and (reads : Reads levels .conjunction left words depth)
    (otherReads : Reads levels .operand right otherWords otherDepth) :
    Reads levels .conjunction (.logical .and left right)
      (words ++ .symbol "&&" :: otherWords) (max depth otherDepth) :=
  reads_joined (fun _ _ => rfl) (by decide) (fun _ _ spelled => logicalJoint_cons spelled)
    reads otherReads

theorem operator_not_mem_continuations {level : List BinaryOperator}
    {tighter : List (List BinaryOperator)} {operator : BinaryOperator}
    (suffix : level :: tighter <:+ BinaryOperator.levels) (member : operator ∈ level) :
    operator.token ∉ (Rank.binary tighter).continuations := by
  rcases suffix with ⟨looser, equal⟩
  have distinct : (looser ++ level :: tighter).flatten.Nodup := by
    rw [equal]
    decide
  have known : operator ∈ BinaryOperator.levels.flatten :=
    equal ▸ List.mem_flatten_of_mem (List.mem_append_right _ List.mem_cons_self) member
  intro continues
  rcases List.mem_append.mp continues with among | other
  · rcases List.mem_map.mp among with ⟨second, secondMember, same⟩
    rw [List.flatten_append, List.flatten_cons] at distinct
    have apart := (List.nodup_append.mp (List.nodup_append.mp distinct).2.1).2.2
    exact apart operator member second secondMember
      (BinaryOperator.token_injective same.symm)
  · have separate : ∀ operator ∈ BinaryOperator.levels.flatten,
        operator.token ∉ [Token.symbol "**", Token.symbol "."] := by decide
    exact separate operator known other

theorem reads_binary {level : List BinaryOperator} {tighter : List (List BinaryOperator)}
    {operator : BinaryOperator} (suffix : level :: tighter <:+ BinaryOperator.levels)
    (member : operator ∈ level)
    (reads : Reads levels (.binary (level :: tighter)) left words depth)
    (otherReads : Reads levels (.binary tighter) right otherWords otherDepth) :
    Reads levels (.binary (level :: tighter)) (.binary operator left right)
      (words ++ operator.token :: otherWords) (max depth otherDepth) :=
  reads_joined (fun _ _ => rfl) (operator_not_mem_continuations suffix member)
    (fun _ _ => levelJoint_cons member) reads otherReads

/-! ## Powers, unary operators and properties -/

theorem reads_unary (reads : Reads levels .unary tree words depth) :
    Reads levels .power tree words depth := by
  intro read rest spelled ends
  show Finds _ _ _ ((rules levels).power _)
  rw [rules_power]
  apply (reads.closed spelled (ends.of_subset (by decide))).bind_flat
  simp only [ends.eat?_eq_none "**" List.mem_cons_self]
  rfl

theorem ruleAt_unary {placed : Token.Placed} {tokens : Tokens}
    (starts : startsPrimary placed.token = true) :
    ruleAt levels .unary (placed :: tokens) = ruleAt levels .member (placed :: tokens) := by
  show (rules levels).unary _ = _
  rw [rules_unary, unaryWith, unaryOperator?_eq_none starts]

theorem reads_member (derived : Derives (.expression .member tree) words depth)
    (reads : Reads levels .member tree words depth) :
    Reads levels .unary tree words depth := by
  intro read rest spelled ends
  have found := reads.closed spelled (ends.of_subset (List.Subset.refl _))
  rcases derived.head rfl with ⟨token, others, equal, starts⟩
  rcases List.map_eq_cons_iff.mp (spelled.trans equal) with ⟨placed, tail, rfl, rfl, _⟩
  rw [List.cons_append] at found ⊢
  rw [ruleAt_unary starts]
  exact found

theorem reads_raise (derived : Derives (.expression .member left) words depth)
    (reads : Reads levels .member left words depth)
    (otherReads : ∀ levels, Reads levels .power right otherWords otherDepth) :
    Reads levels .power (.binary .power left right) (words ++ .symbol "**" :: otherWords)
      (max depth (otherDepth + 1)) := by
  intro read rest spelled ends
  rcases exists_of_map_eq_append_cons spelled with
    ⟨first, placed, second, rfl, firstSpelled, placedSpelled, secondSpelled⟩
  rw [List.append_assoc, List.cons_append]
  show Finds _ _ _ ((rules levels).power _)
  rw [rules_power]
  apply ((reads_member derived reads).closed firstSpelled
    (ends_cons (by rw [placedSpelled]; decide))).bind
  have bare : unaryOperator? (first ++ placed :: (second ++ rest)) = none := by
    rcases derived.head rfl with ⟨token, others, equal, starts⟩
    rcases List.map_eq_cons_iff.mp (firstSpelled.trans equal) with ⟨head, tail, rfl, rfl, _⟩
    exact unaryOperator?_eq_none starts
  simp only [eat?_cons placedSpelled, bare]
  have exponent : Finds levels (otherDepth + 1) (· = .ok (right, rest))
      (deeper (inner? levels) Rules.power (second ++ rest)) :=
    .deeper fun lower => (otherReads lower).closed secondSpelled ends
  exact exponent.bind_flat rfl

theorem reads_apply (operator : UnaryOperator)
    (reads : ∀ levels, Reads levels .unary tree words depth) :
    Reads levels .unary (.unary operator tree) (operator.token :: words) (depth + 1) := by
  intro read rest spelled ends
  rcases List.map_eq_cons_iff.mp spelled with
    ⟨placed, operand, rfl, placedSpelled, operandSpelled⟩
  show Finds _ _ _ ((rules levels).unary _)
  rw [rules_unary, unaryWith, List.cons_append, unaryOperator?_cons placedSpelled]
  have inner : Finds levels (depth + 1) (· = .ok (tree, rest))
      (deeper (inner? levels) Rules.unary (operand ++ rest)) :=
    .deeper fun lower => (reads lower).closed operandSpelled ends
  exact inner.bind_flat rfl

theorem reads_primary (reads : Reads levels .primary tree words depth) :
    Reads levels .member tree words depth := by
  intro read rest spelled ends
  exact (reads.closed spelled ends).bind_flat ⟨rest.length, Nat.le_refl _, rfl⟩

theorem reads_property (name : String) (reads : Reads levels .member tree words depth) :
    Reads levels .member (.member tree name) (words ++ [.symbol ".", .word name]) depth := by
  intro read rest spelled _
  rcases exists_of_map_eq_append_cons spelled with
    ⟨first, dot, second, rfl, firstSpelled, dotSpelled, secondSpelled⟩
  rcases List.map_eq_singleton_iff.mp secondSpelled with ⟨word, rfl, wordSpelled⟩
  rw [List.append_assoc, List.cons_append, List.singleton_append]
  apply (reads first _ firstSpelled (ends_cons (List.not_mem_nil))).imp
  rintro ⟨fuel, enough, equal⟩
  cases fuel with
  | zero => exact absurd enough (Nat.not_succ_le_zero _)
  | succ fuel =>
      have next : next? (word :: rest) = some (.word name) := congrArg some wordSpelled
      refine ⟨fuel, ?_, ?_⟩
      · simp only [List.length_cons] at enough
        omega
      · rw [equal, propertiesFrom, eat?_cons dotSpelled]
        simp only [next]
        rfl

/-! ## Primary expressions -/

theorem reads_constant {token : Token} {literal : Literal}
    (constant : Constant token literal) :
    Reads levels .primary (.literal literal) [token] 0 := by
  intro read rest spelled _
  rcases List.map_eq_singleton_iff.mp spelled with ⟨placed, rfl, placedSpelled⟩
  apply Finds.flat
  show primaryWith _ _ _ (placed :: rest) = .ok (_, rest)
  rw [primaryWith, placedSpelled]
  cases constant <;> rfl

theorem reads_identifier {name : String} (free : Token.isReserved name = false) :
    Reads levels .primary (.identifier name) [.word name] 0 := by
  intro read rest spelled _
  rcases List.map_eq_singleton_iff.mp spelled with ⟨placed, rfl, placedSpelled⟩
  have ordinary : name ≠ "true" ∧ name ≠ "false" ∧ name ≠ "null" := by
    refine ⟨?_, ?_, ?_⟩ <;> rintro rfl <;> exact absurd free (by decide)
  apply Finds.flat
  show primaryWith _ _ _ (placed :: rest) = .ok (_, rest)
  rw [primaryWith, placedSpelled]
  simp [ordinary, free]

/-- What the rule for primary expressions does behind an opening bracket is to read the words
up to the closing one. -/
theorem reads_enclosed {opening closing : String} {inner : Rule}
    (opens : ∀ (first : Token.Placed) (tokens : Tokens), first.token = .symbol opening →
      primaryAt levels (first :: tokens) = inner tokens)
    (reads : ∀ (inside rest : Tokens) (last : Token.Placed),
      inside.map (·.token) = words → last.token = .symbol closing →
      Finds levels depth (· = .ok (tree, rest)) (inner (inside ++ last :: rest))) :
    Reads levels .primary tree (.symbol opening :: (words ++ [.symbol closing])) depth := by
  intro read rest spelled _
  rcases exists_of_map_eq_enclosed spelled with
    ⟨first, inside, last, rfl, firstSpelled, insideSpelled, lastSpelled⟩
  rw [List.cons_append, List.append_assoc, List.singleton_append, ruleAt,
    opens first _ firstSpelled]
  exact reads inside rest last insideSpelled lastSpelled

theorem reads_bracketed (reads : Reads levels .conditional tree words depth) :
    Reads levels .primary tree (.symbol "(" :: (words ++ [.symbol ")"])) depth := by
  refine reads_enclosed (fun first tokens spelled => by rw [primaryAt, primaryWith, spelled]; rfl)
    fun inside rest last insideSpelled lastSpelled => ?_
  apply (reads.closed insideSpelled (ends_cons (by rw [lastSpelled]; decide))).bind_flat
  simp only [expect_cons lastSpelled]
  rfl

/-! ## Arrays and objects -/

/-- What reads the parts of an array or an object, in at most so many rounds. -/
abbrev Listing (Parts : Type) := Rule → (fuel : Nat) → Tokens → Except Refusal (Parts × Tokens)

/-- A listing reads the words up to the closing bracket as the parts. -/
def ReadsListed {Parts : Type} (listing : Listing Parts) (closing : String) (levels : Nat)
    (parts : Parts) (words : List Token) (depth : Nat) : Prop :=
  ∀ (read rest : Tokens) (last : Token.Placed) (fuel : Nat),
    read.map (·.token) = words → last.token = .symbol closing → read.length < fuel →
    Finds levels depth (· = .ok (parts, rest))
      (listing (rules levels).conditional fuel (read ++ last :: rest))

abbrev ReadsElements := ReadsListed elements "]"

abbrev ReadsEntries := ReadsListed entries "\x7d"

theorem reads_listed {Parts : Type} {listing : Listing Parts} {make : Parts → Expr}
    {opening closing : String} {parts : Parts}
    (opens : ∀ (first : Token.Placed) (tokens : Tokens), first.token = .symbol opening →
      primaryAt levels (first :: tokens) =
        deeper (inner? levels) (fun rules tokens => do
          let (parts, rest) ← listing rules.conditional (tokens.length + 1) tokens
          return (make parts, rest)) tokens)
    (reads : ∀ lower, ReadsListed listing closing lower parts words depth) :
    Reads levels .primary (make parts) (.symbol opening :: (words ++ [.symbol closing]))
      (depth + 1) := by
  refine reads_enclosed opens fun inside rest last insideSpelled lastSpelled => ?_
  apply Finds.deeper
  intro lower
  have enough : inside.length < (inside ++ last :: rest).length + 1 := by
    rw [List.length_append]
    omega
  exact (reads lower inside rest last _ insideSpelled lastSpelled enough).bind_flat rfl

theorem reads_array {items : List (Option Expr)}
    (reads : ∀ lower, ReadsElements lower items words depth) :
    Reads levels .primary (.array items) (.symbol "[" :: (words ++ [.symbol "]"]))
      (depth + 1) :=
  reads_listed (fun first tokens spelled => by rw [primaryAt, primaryWith, spelled]; rfl) reads

theorem reads_object {fields : List (String × Expr)}
    (reads : ∀ lower, ReadsEntries lower fields words depth) :
    Reads levels .primary (.object fields) (.symbol "\x7b" :: (words ++ [.symbol "\x7d"]))
      (depth + 1) :=
  reads_listed (fun first tokens spelled => by rw [primaryAt, primaryWith, spelled]; rfl) reads

/-- The rule for an entry reads the words before a comma or a closing brace. -/
def ReadsEntry (levels : Nat) (key : String) (value : Expr) (words : List Token)
    (depth : Nat) : Prop :=
  ∀ (read rest : Tokens) (after : Token.Placed),
    read.map (·.token) = words →
    (after.token = .symbol "," ∨ after.token = .symbol "\x7d") →
    Finds levels depth (· = .ok ((key, value), after :: rest))
      (entry (rules levels).conditional (read ++ after :: rest))

/-! ## Elements and entries -/

theorem reads_noElements : ReadsElements levels [] [] 0 := by
  intro read rest closing fuel spelled closes enough
  cases List.map_eq_nil_iff.mp spelled
  cases fuel with
  | zero => exact absurd enough (Nat.not_lt_zero _)
  | succ fuel =>
      apply Finds.flat
      rw [List.nil_append, elements, eat?_cons closes]

theorem reads_hole {items : List (Option Expr)}
    (reads : ReadsElements levels items words depth) :
    ReadsElements levels (none :: items) (.symbol "," :: words) depth := by
  intro read rest closing fuel spelled closes enough
  rcases List.map_eq_cons_iff.mp spelled with
    ⟨comma, others, rfl, commaSpelled, othersSpelled⟩
  cases fuel with
  | zero => exact absurd enough (Nat.not_lt_zero _)
  | succ fuel =>
      have different : comma.token ≠ .symbol "]" := by
        rw [commaSpelled]
        decide
      rw [List.cons_append, elements, eat?_cons_of_ne different, eat?_cons commaSpelled]
      exact (reads others rest closing fuel othersSpelled closes
        (Nat.lt_of_succ_lt_succ enough)).bind_flat rfl

theorem eat?_eq_none_of_conditional {spelling : String} {read rest : Tokens}
    (derived : Derives (.expression .conditional tree) words depth)
    (spelled : read.map (·.token) = words) (between : spelling ∈ ["]", ","]) :
    eat? spelling (read ++ rest) = none := by
  rcases derived.head rfl with ⟨token, others, equal, starts⟩
  rcases List.map_eq_cons_iff.mp (spelled.trans equal) with ⟨placed, tail, rfl, rfl, _⟩
  apply eat?_cons_of_ne
  intro same
  simp only [List.mem_cons, List.not_mem_nil, or_false] at between
  rcases starts with primary | ⟨operator, isOperator⟩
  · rw [same] at primary
    rcases between with rfl | rfl <;> exact absurd primary (by decide)
  · rw [same] at isOperator
    rcases between with rfl | rfl <;> cases operator <;> exact absurd isOperator (by decide)

theorem reads_element {items : List (Option Expr)}
    (derived : Derives (.expression .conditional tree) words depth)
    (reads : Reads levels .conditional tree words depth)
    (otherReads : ReadsElements levels items otherWords otherDepth) :
    ReadsElements levels (some tree :: items) (words ++ .symbol "," :: otherWords)
      (max depth otherDepth) := by
  intro read rest closing fuel spelled closes enough
  rcases exists_of_map_eq_append_cons spelled with
    ⟨first, comma, others, rfl, firstSpelled, commaSpelled, othersSpelled⟩
  cases fuel with
  | zero => exact absurd enough (Nat.not_lt_zero _)
  | succ fuel =>
      have next := reads.closed firstSpelled
        (ends_cons (by rw [commaSpelled]; decide) : Ends .conditional
          (comma :: (others ++ closing :: rest)))
      rw [List.append_assoc, List.cons_append, elements,
        eat?_eq_none_of_conditional derived firstSpelled (by decide),
        eat?_eq_none_of_conditional derived firstSpelled (by decide), rules_conditional]
      apply next.bind
      simp only [eat?_cons commaSpelled]
      rw [← rules_conditional]
      refine (otherReads others rest closing fuel othersSpelled closes ?_).bind_flat rfl
      simp only [List.length_append, List.length_cons] at enough
      omega

theorem reads_lastElement (derived : Derives (.expression .conditional tree) words depth)
    (reads : Reads levels .conditional tree words depth) :
    ReadsElements levels [some tree] words depth := by
  intro read rest closing fuel spelled closes enough
  cases fuel with
  | zero => exact absurd enough (Nat.not_lt_zero _)
  | succ fuel =>
      have next := reads.closed spelled
        (ends_cons (by rw [closes]; decide) : Ends .conditional (closing :: rest))
      have different : closing.token ≠ .symbol "," := by
        rw [closes]
        decide
      rw [elements, eat?_eq_none_of_conditional derived spelled (by decide),
        eat?_eq_none_of_conditional derived spelled (by decide), rules_conditional]
      apply next.bind_flat
      simp only [eat?_cons_of_ne different, expect_cons closes]
      rfl

theorem Names.exists_entryKey? {token : Token} {key : String} (names : Names token key) :
    ∃ alone, entryKey? token = some (key, alone) := by
  cases names <;> exact ⟨_, rfl⟩

theorem reads_keyed {token : Token} {key : String} {value : Expr}
    (names : Names token key) (reads : Reads levels .conditional value words depth) :
    ReadsEntry levels key value (token :: .symbol ":" :: words) depth := by
  intro read rest after spelled ends
  rcases List.map_eq_cons_iff.mp spelled with ⟨placed, others, rfl, rfl, othersSpelled⟩
  rcases List.map_eq_cons_iff.mp othersSpelled with
    ⟨colon, valueRead, rfl, colonSpelled, valueSpelled⟩
  rcases names.exists_entryKey? with ⟨alone, keyed⟩
  have next : (next? (placed :: colon :: (valueRead ++ after :: rest))).bind entryKey? =
      some (key, alone) := keyed
  have stops : Ends .conditional (after :: rest) :=
    ends_cons (by rcases ends with closes | closes <;> rw [closes] <;> decide)
  rw [List.cons_append, List.cons_append, entry, next]
  simp only [List.tail_cons, eat?_cons colonSpelled]
  rw [rules_conditional]
  exact (reads.closed valueSpelled stops).bind_flat rfl

theorem reads_shorthand {name : String} (free : Token.isReserved name = false) :
    ReadsEntry levels name (.identifier name) [.word name] 0 := by
  intro read rest after spelled ends
  rcases List.map_eq_singleton_iff.mp spelled with ⟨placed, rfl, placedSpelled⟩
  have next : (next? (placed :: after :: rest)).bind entryKey? = some (name, true) := by
    simp [next?, placedSpelled, entryKey?, free]
  have different : after.token ≠ .symbol ":" := by
    rcases ends with closes | closes <;> rw [closes] <;> decide
  apply Finds.flat
  rw [List.singleton_append, entry, next]
  simp only [List.tail_cons, eat?_cons_of_ne different]
  rcases ends with closes | closes <;> simp [eat?_cons closes]

theorem reads_noEntries : ReadsEntries levels [] [] 0 := by
  intro read rest closing fuel spelled closes enough
  cases List.map_eq_nil_iff.mp spelled
  cases fuel with
  | zero => exact absurd enough (Nat.not_lt_zero _)
  | succ fuel =>
      apply Finds.flat
      rw [List.nil_append, entries, eat?_cons closes]

theorem eat?_eq_none_of_entry {key : String} {value : Expr} {read rest : Tokens}
    (derived : Derives (.entry key value) words depth)
    (spelled : read.map (·.token) = words) : eat? "\x7d" (read ++ rest) = none := by
  rcases derived.head rfl with ⟨token, others, equal, name, names⟩
  rcases List.map_eq_cons_iff.mp (spelled.trans equal) with ⟨placed, tail, rfl, rfl, _⟩
  apply eat?_cons_of_ne
  intro same
  rw [same] at names
  cases names

theorem reads_field {key : String} {value : Expr} {fields : List (String × Expr)}
    (derived : Derives (.entry key value) words depth)
    (reads : ReadsEntry levels key value words depth)
    (otherReads : ReadsEntries levels fields otherWords otherDepth) :
    ReadsEntries levels ((key, value) :: fields) (words ++ .symbol "," :: otherWords)
      (max depth otherDepth) := by
  intro read rest closing fuel spelled closes enough
  rcases exists_of_map_eq_append_cons spelled with
    ⟨first, comma, others, rfl, firstSpelled, commaSpelled, othersSpelled⟩
  cases fuel with
  | zero => exact absurd enough (Nat.not_lt_zero _)
  | succ fuel =>
      rw [List.append_assoc, List.cons_append, entries,
        eat?_eq_none_of_entry derived firstSpelled]
      apply (reads first _ comma firstSpelled (.inl commaSpelled)).bind
      simp only [eat?_cons commaSpelled]
      refine (otherReads others rest closing fuel othersSpelled closes ?_).bind_flat rfl
      simp only [List.length_append, List.length_cons] at enough
      omega

theorem reads_lastField {key : String} {value : Expr}
    (derived : Derives (.entry key value) words depth)
    (reads : ReadsEntry levels key value words depth) :
    ReadsEntries levels [(key, value)] words depth := by
  intro read rest closing fuel spelled closes enough
  cases fuel with
  | zero => exact absurd enough (Nat.not_lt_zero _)
  | succ fuel =>
      have different : closing.token ≠ .symbol "," := by
        rw [closes]
        decide
      rw [entries, eat?_eq_none_of_entry derived spelled]
      apply (reads read rest closing spelled (.inr closes)).bind_flat
      simp only [eat?_cons_of_ne different, expect_cons closes]
      rfl

end Productions

/-! ## All phrases -/

/-- The binary levels of a rank are the last ones of all levels. -/
def Rank.IsSuffix : Rank → Prop
  | .binary operators => operators <:+ BinaryOperator.levels
  | _ => True

/-- The rules read the words as the phrase. -/
def Phrase.IsRead (levels : Nat) (words : List Token) (depth : Nat) : Phrase → Prop
  | .expression rank tree => rank.IsSuffix → Reads levels rank tree words depth
  | .elements items => ReadsElements levels items words depth
  | .entry key value => ReadsEntry levels key value words depth
  | .entries fields => ReadsEntries levels fields words depth

theorem Derives.isRead {phrase : Phrase} {words : List Token} {depth : Nat}
    (derived : Derives phrase words depth) :
    ∀ levels, phrase.IsRead levels words depth := by
  have all : (BinaryOperator.levels) <:+ BinaryOperator.levels := List.suffix_refl _
  induction derived with
  | test _ reads => exact fun levels _ => reads_test fun lower => reads lower trivial
  | branches _ _ _ test consequent alternate =>
      exact fun levels _ => reads_branches (fun lower => test lower trivial)
        (fun lower => consequent lower trivial) fun lower => alternate lower trivial
  | uncoalesced _ reads => exact fun levels _ => reads_uncoalesced (reads levels trivial)
  | coalesced _ derived left right =>
      exact fun levels _ => reads_coalesced (reads_coalescedMore (left levels trivial)
        derived (reads_conjunction (reads_operand (right levels all))))
  | coalescedOperand derived reads =>
      exact fun levels _ => reads_coalescedOperand derived
        (reads_conjunction (reads_operand (reads levels all)))
  | coalescedMore _ derived left right =>
      exact fun levels _ => reads_coalescedMore (left levels trivial) derived
        (reads_conjunction (reads_operand (right levels all)))
  | conjunction _ reads => exact fun levels _ => reads_conjunction (reads levels trivial)
  | or _ _ left right =>
      exact fun levels _ => reads_or (left levels trivial) (right levels trivial)
  | operand _ reads => exact fun levels _ => reads_operand (reads levels all)
  | and _ _ left right =>
      exact fun levels _ => reads_and (left levels trivial) (right levels all)
  | power _ reads => exact fun levels _ => reads levels trivial
  | tighter _ reads =>
      exact fun levels suffix =>
        reads_tighter (reads levels ((List.suffix_cons _ _).trans suffix))
  | binary member _ _ left right =>
      exact fun levels suffix => reads_binary suffix member (left levels suffix)
        (right levels ((List.suffix_cons _ _).trans suffix))
  | unary _ reads => exact fun levels _ => reads_unary (reads levels trivial)
  | raise derived _ base exponent =>
      exact fun levels _ => reads_raise derived (base levels trivial)
        fun lower => exponent lower trivial
  | member derived reads => exact fun levels _ => reads_member derived (reads levels trivial)
  | apply operator _ reads =>
      exact fun levels _ => reads_apply operator fun lower => reads lower trivial
  | primary _ reads => exact fun levels _ => reads_primary (reads levels trivial)
  | property name _ reads => exact fun levels _ => reads_property name (reads levels trivial)
  | constant constant => exact fun levels _ => reads_constant constant
  | identifier free => exact fun levels _ => reads_identifier free
  | bracketed _ reads => exact fun levels _ => reads_bracketed (reads levels trivial)
  | array _ reads => exact fun levels _ => reads_array reads
  | object _ reads => exact fun levels _ => reads_object reads
  | noElements => exact fun levels => reads_noElements
  | hole _ reads => exact fun levels => reads_hole (reads levels)
  | element derived _ first others =>
      exact fun levels => reads_element derived (first levels trivial) (others levels)
  | lastElement derived reads =>
      exact fun levels => reads_lastElement derived (reads levels trivial)
  | keyed names _ reads => exact fun levels => reads_keyed names (reads levels trivial)
  | shorthand free => exact fun levels => reads_shorthand free
  | noEntries => exact fun levels => reads_noEntries
  | field derived _ first others =>
      exact fun levels => reads_field derived (first levels) (others levels)
  | lastField derived reads => exact fun levels => reads_lastField derived (reads levels)

end PageTemplates.Grammar
