import PageTemplates.Proofs.Except
import PageTemplates.Proofs.Grammar.Brackets

/-! # What the rules read is derived

Every rule that succeeds has taken a derivation of its rank from the start of the tokens,
nested no deeper than the rule may go. Each way of building rules keeps this, and the
rules themselves follow by induction on the levels that are left.
-/

namespace PageTemplates.Grammar

/-! ## Single tokens -/

theorem exists_of_next?_eq_some {tokens : Tokens} {token : Token}
    (next : next? tokens = some token) :
    ∃ placed, tokens = placed :: tokens.tail ∧ placed.token = token := by
  cases tokens with
  | nil => cases next
  | cons placed rest => exact ⟨placed, rfl, Option.some.inj next⟩

theorem exists_of_eat?_eq_some {spelling : String} {tokens rest : Tokens}
    (eaten : eat? spelling tokens = some rest) :
    ∃ placed, tokens = placed :: rest ∧ placed.token = .symbol spelling := by
  unfold eat? at eaten
  split at eaten
  · rename_i next
    rcases exists_of_next?_eq_some next with ⟨placed, begins, spelled⟩
    cases eaten
    exact ⟨placed, begins, spelled⟩
  · cases eaten

theorem exists_of_expect_eq_ok {spelling : String} {tokens rest : Tokens}
    (expected : expect spelling tokens = .ok rest) :
    ∃ placed, tokens = placed :: rest ∧ placed.token = .symbol spelling := by
  unfold expect at expected
  split at expected
  · rename_i eaten
    cases expected
    exact exists_of_eat?_eq_some eaten
  · cases expected

theorem exists_of_binaryOperator?_eq_some {operators : List BinaryOperator}
    {tokens rest : Tokens} {operator : BinaryOperator}
    (found : binaryOperator? operators tokens = some (operator, rest)) :
    operator ∈ operators ∧
      ∃ placed, tokens = placed :: rest ∧ placed.token = operator.token := by
  rcases Option.map_eq_some_iff.mp found with ⟨other, search, equal⟩
  cases equal
  exact ⟨List.mem_of_find?_eq_some search,
    exists_of_next?_eq_some (by simpa using List.find?_some search)⟩

theorem exists_of_unaryOperator?_eq_some {tokens rest : Tokens} {operator : UnaryOperator}
    (found : unaryOperator? tokens = some (operator, rest)) :
    ∃ placed, tokens = placed :: rest ∧ placed.token = operator.token := by
  rcases Option.map_eq_some_iff.mp found with ⟨other, search, equal⟩
  cases equal
  exact exists_of_next?_eq_some (by simpa using List.find?_some search)

/-! ## Bounded derivations -/

/-- The productions make the words the phrase, nested at most `levels` deep. -/
def Derivable (levels : Nat) (phrase : Phrase) (words : List Token) : Prop :=
  ∃ depth, Derives phrase words depth ∧ depth ≤ levels

namespace Derivable

variable {levels lower : Nat} {phrase other result : Phrase}
  {words otherWords resultWords : List Token}

theorem map (derivable : Derivable levels phrase words)
    (production : ∀ {depth}, Derives phrase words depth →
      Derives result resultWords depth) :
    Derivable levels result resultWords := by
  rcases derivable with ⟨depth, derived, bound⟩
  exact ⟨depth, production derived, bound⟩

theorem both (first : Derivable levels phrase words)
    (second : Derivable levels other otherWords)
    (production : ∀ {depth otherDepth}, Derives phrase words depth →
      Derives other otherWords otherDepth →
      Derives result resultWords (max depth otherDepth)) :
    Derivable levels result resultWords := by
  rcases first with ⟨depth, derived, bound⟩
  rcases second with ⟨otherDepth, otherDerived, otherBound⟩
  exact ⟨_, production derived otherDerived, Nat.max_le.mpr ⟨bound, otherBound⟩⟩

theorem nested (derivable : Derivable lower phrase words)
    (production : ∀ {depth}, Derives phrase words depth →
      Derives result resultWords (depth + 1)) :
    Derivable (lower + 1) result resultWords := by
  rcases derivable with ⟨depth, derived, bound⟩
  exact ⟨_, production derived, Nat.succ_le_succ bound⟩

end Derivable

/-- The tokens begin with a derivation of the phrase, and `rest` is what follows it. -/
def Begins (levels : Nat) (phrase : Phrase) (tokens rest : Tokens) : Prop :=
  ∃ read, tokens = read ++ rest ∧ Derivable levels phrase (read.map (·.token))

/-- Whatever the rule reads is derived as an expression of the rank. -/
def Yields (levels : Nat) (rank : Rank) (rule : Rule) : Prop :=
  ∀ {tokens tree rest}, rule tokens = .ok (tree, rest) →
    Begins levels (.expression rank tree) tokens rest

namespace Begins

variable {levels lower : Nat} {phrase other result : Phrase} {tokens rest : Tokens}

theorem map (begins : Begins levels phrase tokens rest)
    (production : ∀ {words depth}, Derives phrase words depth →
      Derives result words depth) :
    Begins levels result tokens rest := by
  rcases begins with ⟨read, equal, derivable⟩
  exact ⟨read, equal, derivable.map production⟩

theorem join {placed : Token.Placed} {middle : Tokens}
    (first : Begins levels phrase tokens (placed :: middle))
    (second : Begins levels other middle rest)
    (production : ∀ {words otherWords depth otherDepth}, Derives phrase words depth →
      Derives other otherWords otherDepth →
      Derives result (words ++ placed.token :: otherWords) (max depth otherDepth)) :
    Begins levels result tokens rest := by
  rcases first with ⟨read, rfl, derivable⟩
  rcases second with ⟨otherRead, rfl, otherDerivable⟩
  refine ⟨read ++ placed :: otherRead, by simp, ?_⟩
  rw [List.map_append, List.map_cons]
  exact derivable.both otherDerivable production

theorem cons {placed : Token.Placed} (begins : Begins levels phrase tokens rest)
    (production : ∀ {words depth}, Derives phrase words depth →
      Derives result (placed.token :: words) depth) :
    Begins levels result (placed :: tokens) rest := by
  rcases begins with ⟨read, rfl, derivable⟩
  exact ⟨placed :: read, rfl, derivable.map production⟩

theorem cons_nested {placed : Token.Placed} (begins : Begins lower phrase tokens rest)
    (production : ∀ {words depth}, Derives phrase words depth →
      Derives result (placed.token :: words) (depth + 1)) :
    Begins (lower + 1) result (placed :: tokens) rest := by
  rcases begins with ⟨read, rfl, derivable⟩
  exact ⟨placed :: read, rfl, derivable.nested production⟩

theorem snoc {placed : Token.Placed} (begins : Begins levels phrase tokens (placed :: rest)) :
    ∃ read, tokens = read ++ rest ∧ ∃ words,
      read.map (·.token) = words ++ [placed.token] ∧ Derivable levels phrase words := by
  rcases begins with ⟨read, rfl, derivable⟩
  exact ⟨read ++ [placed], by simp, _, by simp, derivable⟩

/-- What stands between two brackets, and the brackets. -/
theorem enclosed {opening closing : String} {outer : Nat} {first last : Token.Placed}
    (begins : Begins levels phrase tokens (last :: rest))
    (opens : first.token = .symbol opening) (closes : last.token = .symbol closing)
    (production : ∀ {words}, Derivable levels phrase words →
      Derivable outer result (.symbol opening :: (words ++ [.symbol closing]))) :
    Begins outer result (first :: tokens) rest := by
  rcases begins.snoc with ⟨inside, rfl, words, spelled, derivable⟩
  refine ⟨first :: inside, rfl, ?_⟩
  rw [List.map_cons, opens, spelled, closes]
  exact production derivable

end Begins

/-! ## Chains -/

/-- What `joint` finds is the token of a production that joins an expression of `rank` to
one of `operandRank` on its right. -/
def Joins (rank operandRank : Rank) (joint : Joint) : Prop :=
  ∀ {tokens join rest}, joint tokens = some (join, rest) →
    ∃ placed, tokens = placed :: rest ∧
      ∀ {left right words otherWords depth otherDepth},
        Derives (.expression rank left) words depth →
        Derives (.expression operandRank right) otherWords otherDepth →
        Derives (.expression rank (join left right))
          (words ++ placed.token :: otherWords) (max depth otherDepth)

section Chains

variable {levels : Nat} {rank operandRank : Rank} {joint : Joint} {operand : Rule}

theorem begins_of_chainFrom (joins : Joins rank operandRank joint)
    (yields : Yields levels operandRank operand) {tokens rest : Tokens} {tree : Expr}
    (fuel : Nat) : ∀ {left middle}, Begins levels (.expression rank left) tokens middle →
      chainFrom joint operand fuel left middle = .ok (tree, rest) →
      Begins levels (.expression rank tree) tokens rest := by
  induction fuel with
  | zero =>
      intro left middle begins equal
      cases equal
      exact begins
  | succ fuel induction =>
      intro left middle begins equal
      rw [chainFrom] at equal
      split at equal
      · cases equal
        exact begins
      · rename_i join after found
        rcases joins found with ⟨placed, rfl, production⟩
        rcases exists_of_bind_eq_ok equal with ⟨⟨right, others⟩, read, next⟩
        exact induction (begins.join (yields read) production) next

theorem yields_chain (joins : Joins rank operandRank joint)
    (alone : ∀ {tree words depth}, Derives (.expression operandRank tree) words depth →
      Derives (.expression rank tree) words depth)
    (yields : Yields levels operandRank operand) :
    Yields levels rank (chain joint operand) := by
  intro tokens tree rest equal
  rcases exists_of_bind_eq_ok equal with ⟨⟨first, middle⟩, read, next⟩
  exact begins_of_chainFrom joins yields _ ((yields read).map alone) next

theorem yields_binary (yields : Yields levels .power operand) :
    ∀ operators, Yields levels (.binary operators) (binary operand operators)
  | [] => fun equal => (yields equal).map .power
  | level :: tighter => by
      apply yields_chain _ .tighter (yields_binary yields tighter)
      intro tokens join rest found
      rcases Option.map_eq_some_iff.mp found with ⟨⟨operator, after⟩, search, equal⟩
      cases equal
      rcases exists_of_binaryOperator?_eq_some search with ⟨member, placed, rfl, spelled⟩
      refine ⟨placed, rfl, ?_⟩
      rw [spelled]
      exact .binary member

theorem joins_logical {operator : LogicalOperator}
    (production : ∀ {left right words otherWords depth otherDepth},
      Derives (.expression rank left) words depth →
      Derives (.expression operandRank right) otherWords otherDepth →
      Derives (.expression rank (.logical operator left right))
        (words ++ .symbol operator.symbol :: otherWords) (max depth otherDepth)) :
    Joins rank operandRank fun tokens =>
      (eat? operator.symbol tokens).map fun rest => (Expr.logical operator, rest) := by
  intro tokens join rest found
  rcases Option.map_eq_some_iff.mp found with ⟨after, eaten, equal⟩
  cases equal
  rcases exists_of_eat?_eq_some eaten with ⟨placed, rfl, spelled⟩
  refine ⟨placed, rfl, ?_⟩
  rw [spelled]
  exact production

theorem yields_conjunction (yields : Yields levels .power operand) :
    Yields levels .conjunction (logical .and (binary operand BinaryOperator.levels)) :=
  yields_chain (joins_logical .and) .operand (yields_binary yields _)

theorem yields_disjunction (yields : Yields levels .power operand) :
    Yields levels .disjunction (disjunction operand) :=
  yields_chain (joins_logical .or) .conjunction (yields_conjunction yields)

end Chains

/-! ## Coalescing -/

section Coalescing

variable {levels : Nat} {operand : Rule} {tokens rest : Tokens} {tree : Expr}

theorem Begins.operand_of_refuseMixed
    (begins : Begins levels (.expression .disjunction tree) tokens rest)
    (unmixed : refuseMixed tokens rest = .ok ()) :
    Begins levels (.expression .operand tree) tokens rest := by
  rcases begins with ⟨read, rfl, derivable⟩
  refine ⟨read, rfl, derivable.map fun derived => ?_⟩
  apply derived.operand_of_mixedAt?_eq_none
  have taken : (read ++ rest).take ((read ++ rest).length - rest.length) = read := by
    simp
  unfold refuseMixed at unmixed
  rw [taken] at unmixed
  split at unmixed
  · cases unmixed
  · assumption

theorem begins_of_coalesceFrom (yields : Yields levels .disjunction operand) (fuel : Nat) :
    ∀ {left middle}, Begins levels (.expression .coalesced left) tokens middle →
      coalesceFrom operand fuel left middle = .ok (tree, rest) →
      (tree = left ∧ rest = middle) ∨
        Begins levels (.expression .coalescing tree) tokens rest := by
  induction fuel with
  | zero =>
      intro left middle _ equal
      cases equal
      exact .inl ⟨rfl, rfl⟩
  | succ fuel induction =>
      intro left middle begins equal
      rw [coalesceFrom] at equal
      split at equal
      · cases equal
        exact .inl ⟨rfl, rfl⟩
      · rename_i after eaten
        rcases exists_of_eat?_eq_some eaten with ⟨placed, rfl, spelled⟩
        rcases exists_of_bind_eq_ok equal with ⟨⟨right, others⟩, read, rest⟩
        rcases exists_of_bind_eq_ok rest with ⟨_, unmixed, next⟩
        have second := (yields read).operand_of_refuseMixed unmixed
        have more : Begins levels (.expression .coalesced (.logical .coalesce left right))
            tokens others := begins.join second (by rw [spelled]; exact .coalescedMore)
        rcases induction more next with ⟨rfl, rfl⟩ | found
        · exact .inr (begins.join second (by rw [spelled]; exact .coalesced))
        · exact .inr found

theorem yields_coalesce (yields : Yields levels .disjunction operand) :
    Yields levels .coalescing (coalesce operand) := by
  intro tokens tree rest equal
  rcases exists_of_bind_eq_ok equal with ⟨⟨first, middle⟩, read, next⟩
  have begins := yields read
  simp only at next
  split at next
  · rcases exists_of_bind_eq_ok next with ⟨_, unmixed, more⟩
    have start := (begins.operand_of_refuseMixed unmixed).map .coalescedOperand
    rcases begins_of_coalesceFrom yields _ start more with ⟨rfl, rfl⟩ | found
    · exact begins.map .uncoalesced
    · exact found
  · cases next
    exact begins.map .uncoalesced

end Coalescing

/-! ## Conditionals, powers, unary operators and properties -/

section Operators

variable {levels lower : Nat}

theorem yields_conditionalWith {condition branch : Rule}
    (yields : Yields levels .coalescing condition)
    (branchYields : Yields levels .conditional branch) :
    Yields (levels + 1) .conditional (conditionalWith condition branch) := by
  intro tokens tree rest equal
  rcases exists_of_bind_eq_ok equal with ⟨⟨test, afterTest⟩, read, next⟩
  rcases yields read with ⟨testRead, rfl, testDerivable⟩
  simp only at next
  split at next
  · cases next
    exact ⟨testRead, rfl, testDerivable.nested .test⟩
  · rename_i question eaten
    rcases exists_of_eat?_eq_some eaten with ⟨mark, rfl, markSpelled⟩
    rcases exists_of_bind_eq_ok next with ⟨⟨consequent, afterConsequent⟩, first, colonNext⟩
    rcases exists_of_bind_eq_ok colonNext with ⟨afterColon, expected, secondNext⟩
    rcases exists_of_bind_eq_ok secondNext with ⟨⟨alternate, afterAlternate⟩, second, last⟩
    rcases exists_of_expect_eq_ok expected with ⟨colon, rfl, colonSpelled⟩
    rcases branchYields first with ⟨firstRead, rfl, firstDerivable⟩
    rcases branchYields second with ⟨secondRead, rfl, secondDerivable⟩
    cases last
    refine ⟨testRead ++ mark :: (firstRead ++ colon :: secondRead), by simp, ?_⟩
    rcases testDerivable with ⟨testDepth, testDerived, testBound⟩
    rcases firstDerivable with ⟨firstDepth, firstDerived, firstBound⟩
    rcases secondDerivable with ⟨secondDepth, secondDerived, secondBound⟩
    refine ⟨max testDepth (max firstDepth secondDepth) + 1, ?_, by omega⟩
    simpa [markSpelled, colonSpelled] using
      Derives.branches testDerived firstDerived secondDerived

theorem Begins.member_of_unaryOperator?_eq_none {tokens rest : Tokens} {tree : Expr}
    (begins : Begins levels (.expression .unary tree) tokens rest)
    (bare : unaryOperator? tokens = none) :
    Begins levels (.expression .member tree) tokens rest := by
  rcases begins with ⟨read, rfl, depth, derived, bound⟩
  generalize spelled : read.map (·.token) = words at derived
  cases derived with
  | member derived => exact ⟨read, rfl, depth, spelled ▸ derived, bound⟩
  | apply operator _ =>
      rcases List.map_eq_cons_iff.mp spelled with ⟨placed, others, rfl, operatorSpelled, _⟩
      rw [unaryOperator?, Option.map_eq_none_iff, List.find?_eq_none] at bare
      refine absurd ?_ (bare operator (by cases operator <;> decide))
      simp [next?, operatorSpelled]

theorem yields_powerWith {base exponent : Rule} (yields : Yields levels .unary base)
    (exponentYields : ∀ {tokens tree rest}, exponent tokens = .ok (tree, rest) →
      ∃ lower, levels = lower + 1 ∧ Begins lower (.expression .power tree) tokens rest) :
    Yields levels .power (powerWith base exponent) := by
  intro tokens tree rest equal
  rcases exists_of_bind_eq_ok equal with ⟨⟨left, middle⟩, read, next⟩
  have begins := yields read
  simp only at next
  split at next
  · cases next
    exact begins.map .unary
  · rename_i after eaten
    rcases exists_of_eat?_eq_some eaten with ⟨placed, rfl, spelled⟩
    split at next
    · cases next
    · rename_i bare
      rcases exists_of_bind_eq_ok next with ⟨⟨right, others⟩, second, next⟩
      cases next
      have bare : unaryOperator? tokens = none := by simpa using bare
      rcases begins.member_of_unaryOperator?_eq_none bare with
        ⟨baseRead, rfl, baseDepth, baseDerived, baseBound⟩
      rcases exponentYields second with
        ⟨lower, rfl, exponentRead, rfl, exponentDepth, exponentDerived, exponentBound⟩
      refine ⟨baseRead ++ placed :: exponentRead, by simp,
        max baseDepth (exponentDepth + 1), ?_, by omega⟩
      simpa [spelled] using Derives.raise baseDerived exponentDerived

theorem yields_unaryWith {operand other : Rule} (yields : Yields levels .member other)
    (operandYields : ∀ {tokens tree rest}, operand tokens = .ok (tree, rest) →
      ∃ lower, levels = lower + 1 ∧ Begins lower (.expression .unary tree) tokens rest) :
    Yields levels .unary (unaryWith operand other) := by
  intro tokens tree rest equal
  unfold unaryWith at equal
  split at equal
  · rename_i operator after found
    rcases exists_of_unaryOperator?_eq_some found with ⟨placed, rfl, spelled⟩
    rcases exists_of_bind_eq_ok equal with ⟨⟨inner, others⟩, read, next⟩
    cases next
    rcases operandYields read with ⟨lower, rfl, begins⟩
    exact begins.cons_nested (by rw [spelled]; exact .apply operator)
  · exact (yields equal).map .member

theorem begins_of_propertiesFrom {tokens rest : Tokens} {tree : Expr} (fuel : Nat) :
    ∀ {base middle}, Begins levels (.expression .member base) tokens middle →
      propertiesFrom fuel base middle = .ok (tree, rest) →
      Begins levels (.expression .member tree) tokens rest := by
  induction fuel with
  | zero =>
      intro base middle begins equal
      cases equal
      exact begins
  | succ fuel induction =>
      intro base middle begins equal
      rw [propertiesFrom] at equal
      split at equal
      · cases equal
        exact begins
      · rename_i after eaten
        rcases exists_of_eat?_eq_some eaten with ⟨dot, rfl, dotSpelled⟩
        split at equal
        · rename_i name next
          rcases exists_of_next?_eq_some next with ⟨word, wordBegins, wordSpelled⟩
          rcases begins with ⟨read, rfl, derivable⟩
          refine induction ⟨read ++ [dot, word], by simp [← wordBegins], ?_⟩ equal
          rw [List.map_append, List.map_cons, List.map_singleton, dotSpelled, wordSpelled]
          exact derivable.map (.property name)
        · cases equal

theorem yields_properties {base : Rule} (yields : Yields levels .primary base) :
    Yields levels .member (properties base) := by
  intro tokens tree rest equal
  rcases exists_of_bind_eq_ok equal with ⟨⟨first, middle⟩, read, next⟩
  exact begins_of_propertiesFrom _ ((yields read).map .primary) next

end Operators

/-! ## Arrays and objects -/

section Collections

variable {levels : Nat}

theorem begins_of_elements {element : Rule} (yields : Yields levels .conditional element)
    (fuel : Nat) : ∀ {tokens rest items}, elements element fuel tokens = .ok (items, rest) →
      ∃ placed, placed.token = .symbol "]" ∧
        Begins levels (.elements items) tokens (placed :: rest) := by
  induction fuel with
  | zero =>
      intro tokens rest items equal
      cases equal
  | succ fuel induction =>
      intro tokens rest items equal
      rw [elements] at equal
      split at equal
      · rename_i after eaten
        rcases exists_of_eat?_eq_some eaten with ⟨closing, rfl, spelled⟩
        cases equal
        exact ⟨closing, spelled, [], rfl, 0, .noElements, Nat.zero_le _⟩
      · split at equal
        · rename_i after eaten
          rcases exists_of_eat?_eq_some eaten with ⟨comma, rfl, spelled⟩
          rcases exists_of_bind_eq_ok equal with ⟨⟨others, last⟩, read, next⟩
          cases next
          rcases induction read with ⟨closing, closes, begins⟩
          exact ⟨closing, closes, begins.cons (by rw [spelled]; exact .hole)⟩
        · rcases exists_of_bind_eq_ok equal with ⟨⟨first, middle⟩, read, next⟩
          have begins := yields read
          simp only at next
          split at next
          · rename_i after eaten
            rcases exists_of_eat?_eq_some eaten with ⟨comma, rfl, spelled⟩
            rcases exists_of_bind_eq_ok next with ⟨⟨others, last⟩, more, done⟩
            cases done
            rcases induction more with ⟨closing, closes, otherBegins⟩
            exact ⟨closing, closes,
              begins.join otherBegins (by rw [spelled]; exact .element)⟩
          · rcases exists_of_bind_eq_ok next with ⟨after, expected, done⟩
            rcases exists_of_expect_eq_ok expected with ⟨closing, rfl, spelled⟩
            cases done
            exact ⟨closing, spelled, begins.map .lastElement⟩

theorem Names.of_entryKey? {token : Token} {key : String} {alone : Bool}
    (found : entryKey? token = some (key, alone)) : Names token key := by
  cases token <;> cases found <;> constructor

theorem begins_of_entry {value : Rule} (yields : Yields levels .conditional value)
    {tokens rest : Tokens} {key : String} {tree : Expr}
    (equal : entry value tokens = .ok ((key, tree), rest)) :
    Begins levels (.entry key tree) tokens rest := by
  unfold entry at equal
  split at equal
  · cases equal
  · rename_i name alone found
    rcases Option.bind_eq_some_iff.mp found with ⟨token, next, keyed⟩
    rcases exists_of_next?_eq_some next with ⟨placed, begins, spelled⟩
    generalize tokens.tail = afterKey at equal begins
    subst begins
    have names : Names placed.token name := spelled ▸ Names.of_entryKey? keyed
    simp only at equal
    split at equal
    · rename_i after eaten
      rcases exists_of_eat?_eq_some eaten with ⟨colon, rfl, colonSpelled⟩
      rcases exists_of_bind_eq_ok equal with ⟨⟨found, others⟩, read, done⟩
      cases done
      rcases yields read with ⟨valueRead, rfl, derivable⟩
      refine ⟨placed :: colon :: valueRead, rfl, ?_⟩
      rw [List.map_cons, List.map_cons, colonSpelled]
      exact derivable.map (.keyed names)
    · split at equal
      · rename_i allowed
        cases equal
        refine ⟨[placed], rfl, 0, ?_, Nat.zero_le _⟩
        cases token <;> cases keyed
        · simp at allowed
        · simp at allowed
        · rw [List.map_singleton, spelled]
          exact .shorthand (by simp at allowed; exact allowed.1)
      · cases equal

theorem begins_of_entries {value : Rule} (yields : Yields levels .conditional value)
    (fuel : Nat) : ∀ {tokens rest fields}, entries value fuel tokens = .ok (fields, rest) →
      ∃ placed, placed.token = .symbol "\x7d" ∧
        Begins levels (.entries fields) tokens (placed :: rest) := by
  induction fuel with
  | zero =>
      intro tokens rest fields equal
      cases equal
  | succ fuel induction =>
      intro tokens rest fields equal
      rw [entries] at equal
      split at equal
      · rename_i after eaten
        rcases exists_of_eat?_eq_some eaten with ⟨closing, rfl, spelled⟩
        cases equal
        exact ⟨closing, spelled, [], rfl, 0, .noEntries, Nat.zero_le _⟩
      · rcases exists_of_bind_eq_ok equal with ⟨⟨⟨key, tree⟩, middle⟩, read, next⟩
        have begins := begins_of_entry yields read
        simp only at next
        split at next
        · rename_i after eaten
          rcases exists_of_eat?_eq_some eaten with ⟨comma, rfl, spelled⟩
          rcases exists_of_bind_eq_ok next with ⟨⟨others, last⟩, more, done⟩
          cases done
          rcases induction more with ⟨closing, closes, otherBegins⟩
          exact ⟨closing, closes, begins.join otherBegins (by rw [spelled]; exact .field)⟩
        · rcases exists_of_bind_eq_ok next with ⟨after, expected, done⟩
          rcases exists_of_expect_eq_ok expected with ⟨closing, rfl, spelled⟩
          cases done
          exact ⟨closing, spelled, begins.map .lastField⟩

end Collections

/-! ## The rules at a depth -/

/-- A rule for what stands after an opening bracket makes a primary expression. -/
def Opens (levels : Nat) (opening : String) (rule : Rule) : Prop :=
  ∀ {tokens tree rest} {placed : Token.Placed}, placed.token = .symbol opening →
    rule tokens = .ok (tree, rest) →
    Begins levels (.expression .primary tree) (placed :: tokens) rest

section Rules

variable {levels : Nat}

theorem opens_bracket {whole : Rule} (yields : Yields levels .conditional whole) :
    Opens levels "(" fun tokens => do
      let (inner, rest) ← whole tokens
      let rest ← expect ")" rest
      return (inner, rest) := by
  intro tokens tree rest placed opening equal
  rcases exists_of_bind_eq_ok equal with ⟨⟨inner, middle⟩, read, next⟩
  rcases exists_of_bind_eq_ok next with ⟨after, expected, done⟩
  rcases exists_of_expect_eq_ok expected with ⟨closing, rfl, spelled⟩
  cases done
  exact (yields read).enclosed opening spelled (·.map .bracketed)

theorem opens_array {element : Rule} (yields : Yields levels .conditional element) :
    Opens (levels + 1) "[" (arrayWith element) := by
  intro tokens tree rest placed opening equal
  rcases exists_of_bind_eq_ok equal with ⟨⟨items, after⟩, read, done⟩
  cases done
  rcases begins_of_elements yields _ read with ⟨closing, spelled, begins⟩
  exact begins.enclosed opening spelled (·.nested .array)

theorem opens_object {value : Rule} (yields : Yields levels .conditional value) :
    Opens (levels + 1) "\x7b" (objectWith value) := by
  intro tokens tree rest placed opening equal
  rcases exists_of_bind_eq_ok equal with ⟨⟨fields, after⟩, read, done⟩
  cases done
  rcases begins_of_entries yields _ read with ⟨closing, spelled, begins⟩
  exact begins.enclosed opening spelled (·.nested .object)

theorem yields_primaryWith {whole array object : Rule}
    (yields : Yields levels .conditional whole) (arrayOpens : Opens levels "[" array)
    (objectOpens : Opens levels "\x7b" object) :
    Yields levels .primary (primaryWith whole array object) := by
  have single (placed : Token.Placed) (rest : Tokens) (tree : Expr)
      (derived : Derives (.expression .primary tree) [placed.token] 0) :
      Begins levels (.expression .primary tree) (placed :: rest) rest :=
    ⟨[placed], rfl, 0, derived, Nat.zero_le _⟩
  intro tokens tree rest equal
  cases tokens with
  | nil => cases equal
  | cons placed tokens =>
      rw [primaryWith] at equal
      split at equal
      · rename_i value spelled
        cases equal
        exact single _ _ _ (spelled ▸ .constant (.number value))
      · rename_i value spelled
        cases equal
        exact single _ _ _ (spelled ▸ .constant (.string value))
      · rename_i name spelled
        split at equal
        · rename_i isTrue
          cases equal
          exact single _ _ _ (spelled ▸ isTrue ▸ .constant .true)
        split at equal
        · rename_i isFalse
          cases equal
          exact single _ _ _ (spelled ▸ isFalse ▸ .constant .false)
        split at equal
        · rename_i isNull
          cases equal
          exact single _ _ _ (spelled ▸ isNull ▸ .constant .null)
        split at equal
        · cases equal
        · rename_i free
          cases equal
          exact single _ _ _ (spelled ▸ .identifier (by simpa using free))
      · rename_i spelling spelled
        split at equal
        · rename_i isBracket
          exact opens_bracket yields (spelled.trans (congrArg _ isBracket)) equal
        split at equal
        · rename_i isArray
          exact arrayOpens (spelled.trans (congrArg _ isArray)) equal
        split at equal
        · rename_i isObject
          exact objectOpens (spelled.trans (congrArg _ isObject)) equal
        · cases equal

/-- The rules of a level yield what their names say. The rule `whole` stands one level
deeper than the others: it is what `conditional` reads one level up. -/
structure Rules.Sound (rules : Rules) (levels : Nat) : Prop where
  conditional : Yields levels .conditional rules.conditional
  unary : Yields levels .unary rules.unary
  power : Yields levels .power rules.power
  whole : Yields (levels + 1) .conditional rules.whole

theorem rulesOver_sound (inner : Option Rules)
    (sound : ∀ rules ∈ inner, ∃ lower, levels = lower + 1 ∧ rules.Sound lower) :
    (rulesOver inner).Sound levels := by
  have deeper_eq_ok {rule : Rules → Rule} {tokens tree rest}
      (equal : deeper inner rule tokens = .ok (tree, rest)) :
      ∃ rules lower, levels = lower + 1 ∧ rules.Sound lower ∧
        rule rules tokens = .ok (tree, rest) := by
    cases inner with
    | none => cases equal
    | some rules =>
        rcases sound rules rfl with ⟨lower, exact, holds⟩
        exact ⟨rules, lower, exact, holds, equal⟩
  have conditional : Yields levels .conditional (deeper inner Rules.whole) := by
    intro tokens tree rest equal
    rcases deeper_eq_ok equal with ⟨rules, lower, rfl, holds, found⟩
    exact holds.whole found
  have opens {opening : String} {rule : Rules → Rule}
      (opened : ∀ {rules lower}, rules.Sound lower → Opens (lower + 1) opening (rule rules)) :
      Opens levels opening (deeper inner rule) := by
    intro tokens tree rest placed spelled equal
    rcases deeper_eq_ok equal with ⟨rules, lower, rfl, holds, found⟩
    exact opened holds spelled found
  have primary : Yields levels .primary (primaryWith (deeper inner Rules.whole)
      (deeper inner fun rules => arrayWith rules.conditional)
      (deeper inner fun rules => objectWith rules.conditional)) :=
    yields_primaryWith conditional (opens fun holds => opens_array holds.conditional)
      (opens fun holds => opens_object holds.conditional)
  have unary : Yields levels .unary (rulesOver inner).unary := by
    apply yields_unaryWith (yields_properties primary)
    intro tokens tree rest equal
    rcases deeper_eq_ok equal with ⟨rules, lower, exact, holds, found⟩
    exact ⟨lower, exact, holds.unary found⟩
  have power : Yields levels .power (rulesOver inner).power := by
    apply yields_powerWith unary
    intro tokens tree rest equal
    rcases deeper_eq_ok equal with ⟨rules, lower, exact, holds, found⟩
    exact ⟨lower, exact, holds.power found⟩
  exact ⟨conditional, unary, power,
    yields_conditionalWith (yields_coalesce (yields_disjunction power)) conditional⟩

theorem rules_sound : ∀ levels, (rules levels).Sound levels
  | 0 => rulesOver_sound none nofun
  | levels + 1 => by
      apply rulesOver_sound (some (rules levels))
      rintro _ ⟨⟩
      exact ⟨levels, rfl, rules_sound levels⟩

end Rules

end PageTemplates.Grammar
