import PageTemplates.Proofs.Grammar.Brackets

/-! # Reading a derived phrase

What it means that the rule of a rank reads an expression. The tokens after the expression
must not go on with it. Where the levels that are left do not reach as deep as the
expression nests, the rule refuses the nesting and nothing else.

A chain is derived from its right end and read from its left end. So a chain counts as
read when the rule goes on after it with the chain as the left operand.
-/

namespace PageTemplates.Grammar

/-! ## Findings -/

/-- What is found of a phrase that nests `depth` deep where `levels` are left: what is
wanted if that is deep enough, and a refusal of the nesting if it is not. -/
structure Finds {α : Type} (levels depth : Nat) (wanted : Except Refusal α → Prop)
    (found : Except Refusal α) : Prop where
  within : depth ≤ levels → wanted found
  beyond : levels < depth → ∃ position?, found = .error ⟨.nestedTooDeeply, position?⟩

namespace Finds

variable {α β : Type} {levels depth otherDepth : Nat} {wanted : Except Refusal α → Prop}
  {found : Except Refusal α}

theorem flat (holds : wanted found) : Finds levels 0 wanted found :=
  ⟨fun _ => holds, fun impossible => absurd impossible (Nat.not_lt_zero levels)⟩

theorem trans {other : Except Refusal α → Prop} (first : Finds levels depth wanted found)
    (next : wanted found → Finds levels otherDepth other found) :
    Finds levels (max depth otherDepth) other found := by
  constructor
  · intro bound
    rcases Nat.max_le.mp bound with ⟨left, right⟩
    exact (next (first.within left)).within right
  · intro exceeded
    by_cases left : depth ≤ levels
    · exact (next (first.within left)).beyond (by omega)
    · exact first.beyond (by omega)

theorem imp {other : Except Refusal α → Prop} (first : Finds levels depth wanted found)
    (weaker : wanted found → other found) : Finds levels depth other found :=
  ⟨fun bound => weaker (first.within bound), first.beyond⟩

theorem bind {value : α} {next : α → Except Refusal β} {other : Except Refusal β → Prop}
    (first : Finds levels depth (· = .ok value) found)
    (second : Finds levels otherDepth other (next value)) :
    Finds levels (max depth otherDepth) other (found >>= next) := by
  constructor
  · intro bound
    rcases Nat.max_le.mp bound with ⟨left, right⟩
    rw [first.within left]
    exact second.within right
  · intro exceeded
    by_cases left : depth ≤ levels
    · rw [first.within left]
      exact second.beyond (by omega)
    · rcases first.beyond (by omega) with ⟨position?, rfl⟩
      exact ⟨position?, rfl⟩

theorem bind_flat {value : α} {next : α → Except Refusal β}
    {other : Except Refusal β → Prop} (first : Finds levels depth (· = .ok value) found)
    (second : other (next value)) : Finds levels depth other (found >>= next) := by
  have last : Finds levels 0 other (next value) := .flat second
  have both := first.bind last
  rwa [Nat.max_zero] at both

end Finds

/-- The rules one level deeper, where there is a deeper level. -/
def inner? : Nat → Option Rules
  | 0 => none
  | levels + 1 => some (rules levels)

theorem Finds.deeper {levels depth : Nat} {rule : Rules → Rule} {tokens : Tokens}
    {wanted : Except Refusal (Expr × Tokens) → Prop}
    (lower : ∀ levels, Finds levels depth wanted (rule (rules levels) tokens)) :
    Finds levels (depth + 1) wanted (Grammar.deeper (inner? levels) rule tokens) := by
  cases levels with
  | zero => exact ⟨nofun, fun _ => ⟨_, rfl⟩⟩
  | succ levels =>
      exact ⟨fun bound => (lower levels).within (Nat.le_of_succ_le_succ bound),
        fun exceeded => (lower levels).beyond (Nat.lt_of_succ_lt_succ exceeded)⟩

/-! ## The rule of a rank -/

/-- What joins operands by an operator of a level. -/
def levelJoint (level : List BinaryOperator) : Joint := fun tokens =>
  (binaryOperator? level tokens).map fun (operator, rest) => (Expr.binary operator, rest)

/-- What joins operands by a logical operator. -/
def logicalJoint (operator : LogicalOperator) : Joint := fun tokens =>
  (eat? operator.symbol tokens).map fun rest => (Expr.logical operator, rest)

/-- The rule for primary expressions where `levels` deeper levels are left. -/
def primaryAt (levels : Nat) : Rule :=
  primaryWith (deeper (inner? levels) Rules.whole)
    (deeper (inner? levels) fun rules => arrayWith rules.conditional)
    (deeper (inner? levels) fun rules => objectWith rules.conditional)

/-- The rule that reads expressions of a rank where `levels` deeper levels are left. -/
def ruleAt (levels : Nat) : Rank → Rule
  | .conditional => deeper (inner? levels) Rules.whole
  | .coalescing | .coalesced => coalesce (disjunction (rules levels).power)
  | .disjunction => disjunction (rules levels).power
  | .conjunction => logical .and (binary (rules levels).power BinaryOperator.levels)
  | .binary operators => binary (rules levels).power operators
  | .power => (rules levels).power
  | .unary => (rules levels).unary
  | .member => properties (primaryAt levels)
  | .primary => primaryAt levels

theorem rules_conditional (levels : Nat) :
    (rules levels).conditional = ruleAt levels .conditional := by
  cases levels <;> rfl

theorem rules_whole (levels : Nat) :
    (rules levels).whole =
      conditionalWith (ruleAt levels .coalescing) (ruleAt levels .conditional) := by
  cases levels <;> rfl

theorem rules_power (levels : Nat) :
    (rules levels).power =
      powerWith (ruleAt levels .unary) (deeper (inner? levels) Rules.power) := by
  cases levels <;> rfl

theorem rules_unary (levels : Nat) :
    (rules levels).unary =
      unaryWith (deeper (inner? levels) Rules.unary) (ruleAt levels .member) := by
  cases levels <;> rfl

/-! ## What may follow -/

/-- The tokens that go on with an expression of binary operators. -/
def operandContinuations (levels : List (List BinaryOperator)) : List Token :=
  levels.flatten.map BinaryOperator.token ++ [.symbol "**", .symbol "."]

/-- The tokens that go on with an expression of a rank. -/
def Rank.continuations : Rank → List Token
  | .conditional =>
      .symbol "?" :: .symbol "??" :: .symbol "||" :: .symbol "&&" ::
        operandContinuations BinaryOperator.levels
  | .coalescing | .coalesced =>
      .symbol "??" :: .symbol "||" :: .symbol "&&" ::
        operandContinuations BinaryOperator.levels
  | .disjunction =>
      .symbol "||" :: .symbol "&&" :: operandContinuations BinaryOperator.levels
  | .conjunction => .symbol "&&" :: operandContinuations BinaryOperator.levels
  | .binary levels => operandContinuations levels
  | .power => operandContinuations []
  | .unary | .member => [.symbol "."]
  | .primary => []

/-- The rank of what a chain of a rank is made of. Other expressions are made at once. -/
def Rank.inner : Rank → Rank
  | .coalesced => .disjunction
  | .disjunction => .conjunction
  | .conjunction => .operand
  | .binary (_ :: tighter) => .binary tighter
  | .member => .primary
  | rank => rank

/-- The tokens do not go on with an expression of the rank. -/
def Ends (rank : Rank) (rest : Tokens) : Prop :=
  ∀ token, next? rest = some token → token ∉ rank.continuations

theorem ends_cons {rank : Rank} {placed : Token.Placed} {rest : Tokens}
    (stops : placed.token ∉ rank.continuations) : Ends rank (placed :: rest) := by
  intro token next
  cases next
  exact stops

theorem Ends.of_subset {rank other : Rank} {rest : Tokens} (ends : Ends rank rest)
    (subset : other.continuations ⊆ rank.continuations) : Ends other rest :=
  fun token next member => ends token next (subset member)

theorem Ends.eat?_eq_none {rank : Rank} {rest : Tokens} (ends : Ends rank rest)
    (spelling : String) (continues : .symbol spelling ∈ rank.continuations) :
    eat? spelling rest = none :=
  if_neg fun next => ends _ next continues

theorem Ends.inner {rank : Rank} {rest : Tokens} (ends : Ends rank rest) :
    Ends rank.inner rest := by
  apply ends.of_subset
  cases rank with
  | binary levels =>
      cases levels with
      | nil => exact List.Subset.refl _
      | cons level tighter =>
          exact List.append_subset.mpr ⟨
            fun token member => List.mem_append_left _ (by
              rw [List.flatten_cons, List.map_append]
              exact List.mem_append_right _ member),
            List.subset_append_right _ _⟩
  | coalesced | disjunction | conjunction => exact List.subset_cons_self _ _
  | member => exact List.nil_subset _
  | conditional | coalescing | power | unary | primary => exact List.Subset.refl _

/-! ## Tokens that are read -/

theorem eat?_cons {spelling : String} {placed : Token.Placed} {rest : Tokens}
    (spelled : placed.token = .symbol spelling) :
    eat? spelling (placed :: rest) = some rest := by
  simp [eat?, next?, spelled]

theorem eat?_cons_of_ne {spelling : String} {placed : Token.Placed} {rest : Tokens}
    (different : placed.token ≠ .symbol spelling) : eat? spelling (placed :: rest) = none := by
  simp [eat?, next?, different]

theorem expect_cons {spelling : String} {placed : Token.Placed} {rest : Tokens}
    (spelled : placed.token = .symbol spelling) :
    expect spelling (placed :: rest) = .ok rest := by
  rw [expect, eat?_cons spelled]

theorem BinaryOperator.token_injective : Function.Injective BinaryOperator.token := by
  have found (operator : BinaryOperator) :
      BinaryOperator.all.find? (·.token = operator.token) = some operator := by
    cases operator <;> rfl
  intro left right equal
  have search := found left
  rw [equal, found right] at search
  exact (Option.some.inj search).symm

theorem binaryOperator?_cons {level : List BinaryOperator} {operator : BinaryOperator}
    {placed : Token.Placed} {rest : Tokens} (member : operator ∈ level)
    (spelled : placed.token = operator.token) :
    binaryOperator? level (placed :: rest) = some (operator, rest) := by
  have next : next? (placed :: rest) = some operator.token := congrArg some spelled
  unfold binaryOperator?
  rw [next]
  cases search : level.find? fun other => some operator.token = some other.token with
  | none =>
      have missed := List.find?_eq_none.mp search operator member
      simp at missed
  | some other =>
      have same : operator.token = other.token := by simpa using List.find?_some search
      rw [BinaryOperator.token_injective same]
      rfl

theorem unaryOperator?_cons {operator : UnaryOperator} {placed : Token.Placed}
    {rest : Tokens} (spelled : placed.token = operator.token) :
    unaryOperator? (placed :: rest) = some (operator, rest) := by
  have next : next? (placed :: rest) = some operator.token := congrArg some spelled
  unfold unaryOperator?
  rw [next]
  cases operator <;> rfl

theorem levelJoint_cons {level : List BinaryOperator} {operator : BinaryOperator}
    {placed : Token.Placed} {rest : Tokens} (member : operator ∈ level)
    (spelled : placed.token = operator.token) :
    levelJoint level (placed :: rest) = some (Expr.binary operator, rest) := by
  rw [levelJoint, binaryOperator?_cons member spelled]
  rfl

theorem logicalJoint_cons {operator : LogicalOperator} {placed : Token.Placed}
    {rest : Tokens} (spelled : placed.token = .symbol operator.symbol) :
    logicalJoint operator (placed :: rest) = some (Expr.logical operator, rest) := by
  rw [logicalJoint, eat?_cons spelled]
  rfl

theorem exists_of_map_eq_append_cons {read : Tokens} {words otherWords : List Token}
    {token : Token} (spelled : read.map (·.token) = words ++ token :: otherWords) :
    ∃ first placed second, read = first ++ placed :: second ∧
      first.map (·.token) = words ∧ placed.token = token ∧
      second.map (·.token) = otherWords := by
  rcases List.map_eq_append_iff.mp spelled with ⟨first, others, rfl, firstSpelled, tail⟩
  rcases List.map_eq_cons_iff.mp tail with ⟨placed, second, rfl, placedSpelled, secondSpelled⟩
  exact ⟨first, placed, second, rfl, firstSpelled, placedSpelled, secondSpelled⟩

theorem exists_of_map_eq_enclosed {read : Tokens} {words : List Token}
    {first last : Token} (spelled : read.map (·.token) = first :: (words ++ [last])) :
    ∃ opening inside closing, read = opening :: (inside ++ [closing]) ∧
      opening.token = first ∧ inside.map (·.token) = words ∧ closing.token = last := by
  rcases List.map_eq_cons_iff.mp spelled with
    ⟨opening, others, rfl, openingSpelled, othersSpelled⟩
  rcases exists_of_map_eq_append_cons othersSpelled with
    ⟨inside, closing, others, rfl, insideSpelled, closingSpelled, othersSpelled⟩
  cases List.map_eq_nil_iff.mp othersSpelled
  exact ⟨opening, inside, closing, rfl, openingSpelled, insideSpelled, closingSpelled⟩

/-! ## Chains -/

/-- A chain goes on after `left`, with fuel for all the tokens that are left. -/
def GoesOn (joint : Joint) (operand : Rule) (left : Expr) (rest : Tokens)
    (found : Except Refusal (Expr × Tokens)) : Prop :=
  ∃ fuel, rest.length ≤ fuel ∧ found = chainFrom joint operand fuel left rest

section Chains

variable {levels depth otherDepth : Nat} {joint : Joint} {operand : Rule}
  {tree left right : Expr} {tokens middle rest : Tokens} {placed : Token.Placed}
  {found : Except Refusal (Expr × Tokens)}

theorem GoesOn.eq_ok (goesOn : GoesOn joint operand left rest found)
    (stops : joint rest = none) : found = .ok (left, rest) := by
  rcases goesOn with ⟨fuel, _, rfl⟩
  cases fuel with
  | zero => rfl
  | succ fuel => rw [chainFrom, stops]

theorem finds_chain_first
    (first : Finds levels depth (· = .ok (tree, rest)) (operand tokens)) :
    Finds levels depth (GoesOn joint operand tree rest) (chain joint operand tokens) :=
  first.bind_flat ⟨rest.length, Nat.le_refl _, rfl⟩

theorem finds_chain_more {join : Expr → Expr → Expr}
    (first : Finds levels depth (GoesOn joint operand left (placed :: middle)) found)
    (joins : joint (placed :: middle) = some (join, middle))
    (second : Finds levels otherDepth (· = .ok (right, rest)) (operand middle))
    (shorter : rest.length ≤ middle.length) :
    Finds levels (max depth otherDepth) (GoesOn joint operand (join left right) rest)
      found := by
  apply first.trans
  rintro ⟨fuel, enough, rfl⟩
  cases fuel with
  | zero => exact absurd enough (Nat.not_succ_le_zero _)
  | succ fuel =>
      rw [chainFrom, joins]
      exact second.bind_flat
        ⟨fuel, Nat.le_trans shorter (Nat.le_of_succ_le_succ enough), rfl⟩

end Chains

/-- What the rule of a rank does after an expression of the rank. -/
def Continues (levels : Nat) (rank : Rank) (tree : Expr) (rest : Tokens)
    (found : Except Refusal (Expr × Tokens)) : Prop :=
  match rank with
  | .binary (level :: tighter) =>
      GoesOn (levelJoint level) (ruleAt levels (.binary tighter)) tree rest found
  | .conjunction => GoesOn (logicalJoint .and) (ruleAt levels .operand) tree rest found
  | .disjunction => GoesOn (logicalJoint .or) (ruleAt levels .conjunction) tree rest found
  | .coalesced =>
      ∃ fuel, rest.length ≤ fuel ∧
        found = coalesceFrom (ruleAt levels .disjunction) fuel tree rest
  | .member => ∃ fuel, rest.length ≤ fuel ∧ found = propertiesFrom fuel tree rest
  | _ => found = .ok (tree, rest)

/-- The rule of the rank reads the words as the tree. -/
def Reads (levels : Nat) (rank : Rank) (tree : Expr) (words : List Token)
    (depth : Nat) : Prop :=
  ∀ read rest : Tokens, read.map (·.token) = words → Ends rank.inner rest →
    Finds levels depth (Continues levels rank tree rest) (ruleAt levels rank (read ++ rest))

theorem Ends.levelJoint_eq_none {level : List BinaryOperator}
    {tighter : List (List BinaryOperator)} {rest : Tokens}
    (ends : Ends (.binary (level :: tighter)) rest) : levelJoint level rest = none := by
  rw [levelJoint, Option.map_eq_none_iff, binaryOperator?, Option.map_eq_none_iff,
    List.find?_eq_none]
  intro operator member matched
  apply ends _ (of_decide_eq_true matched)
  apply List.mem_append_left
  exact List.mem_map_of_mem (List.mem_append_left _ member)

theorem Ends.logicalJoint_eq_none {rank : Rank} {operator : LogicalOperator} {rest : Tokens}
    (ends : Ends rank rest) (continues : .symbol operator.symbol ∈ rank.continuations) :
    logicalJoint operator rest = none := by
  rw [logicalJoint, ends.eat?_eq_none _ continues]
  rfl

theorem Continues.eq_ok {levels : Nat} {rank : Rank} {tree : Expr} {rest : Tokens}
    {found : Except Refusal (Expr × Tokens)}
    (continues : Continues levels rank tree rest found) (ends : Ends rank rest) :
    found = .ok (tree, rest) := by
  cases rank with
  | binary operators =>
      cases operators with
      | nil => exact continues
      | cons level tighter => exact GoesOn.eq_ok continues ends.levelJoint_eq_none
  | conjunction =>
      exact GoesOn.eq_ok continues (ends.logicalJoint_eq_none List.mem_cons_self)
  | disjunction =>
      exact GoesOn.eq_ok continues (ends.logicalJoint_eq_none List.mem_cons_self)
  | coalesced =>
      rcases continues with ⟨fuel, _, rfl⟩
      cases fuel with
      | zero => rfl
      | succ fuel => rw [coalesceFrom, ends.eat?_eq_none _ List.mem_cons_self]
  | member =>
      rcases continues with ⟨fuel, _, rfl⟩
      cases fuel with
      | zero => rfl
      | succ fuel => rw [propertiesFrom, ends.eat?_eq_none _ List.mem_cons_self]
  | conditional | coalescing | power | unary | primary => exact continues

theorem Reads.closed {levels depth : Nat} {rank : Rank} {tree : Expr} {words : List Token}
    (reads : Reads levels rank tree words depth) {read rest : Tokens}
    (spelled : read.map (·.token) = words) (ends : Ends rank rest) :
    Finds levels depth (· = .ok (tree, rest)) (ruleAt levels rank (read ++ rest)) :=
  (reads read rest spelled ends.inner).imp fun continues => continues.eq_ok ends

end PageTemplates.Grammar
