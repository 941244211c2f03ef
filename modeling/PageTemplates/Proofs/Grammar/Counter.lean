import PageTemplates.Proofs.Grammar.Counted
import PageTemplates.Proofs.Grammar.Size

/-! # The count is put back

A function that counts does at every cursor what its rule does with the levels that the count
leaves, and leaves the count as it was. Each way of building functions keeps this, and the
functions themselves follow by induction on the calls that may stand inside each other. Loops
are compared round by round: every round takes a token, so neither side runs out of rounds.
-/

namespace PageTemplates.Grammar

/-! ## Agreement -/

section

variable {α β : Type} {rounds depth : Nat}

/-- What was read without a count, at a cursor with this count. -/
def atDepth (depth : Nat) (read : α × Tokens) : α × Cursor := (read.1, ⟨read.2, depth⟩)

/-- At cursors with a count and less than `rounds` tokens, a function does what a reader does,
and puts the count back. -/
def Mirrors (rounds depth : Nat) (function : Counted α)
    (reader : Tokens → Except Refusal (α × Tokens)) : Prop :=
  ∀ tokens, tokens.length < rounds →
    function ⟨tokens, depth⟩ = (reader tokens).map (atDepth depth)

/-- One step after another. -/
theorem bind_eq {function : Counted α} {reader : Except Refusal (α × Tokens)}
    {next : α → Counted β} {nextReader : α × Tokens → Except Refusal (β × Tokens)}
    {tokens : Tokens} (first : function ⟨tokens, depth⟩ = reader.map (atDepth depth))
    (others : ∀ value rest, reader = .ok (value, rest) →
      next value ⟨rest, depth⟩ = (nextReader (value, rest)).map (atDepth depth)) :
    (function >>= next) ⟨tokens, depth⟩ = (reader >>= nextReader).map (atDepth depth) := by
  change (function ⟨tokens, depth⟩ >>= fun found => next found.1 found.2) = _
  rw [first]
  cases reader with
  | error refusal => rfl
  | ok found => exact others found.1 found.2 rfl

/-! ## Steps -/

section

variable {spelling : String} {tokens rest : Tokens} {yes no : Counted β}

theorem get_eq (next : Cursor → Counted β) (cursor : Cursor) :
    ((get : Counted Cursor) >>= next) cursor = next cursor cursor :=
  rfl

theorem skip_eq (next : Unit → Counted β) (tokens : Tokens) :
    (Counted.skip >>= next) ⟨tokens, depth⟩ = next () ⟨tokens.tail, depth⟩ :=
  rfl

theorem eat_of_some (eaten : eat? spelling tokens = some rest) :
    (Counted.eat spelling >>= fun found => if found then yes else no) ⟨tokens, depth⟩ =
      yes ⟨rest, depth⟩ := by
  change (Counted.eat spelling ⟨tokens, depth⟩ >>= fun found => _) = _
  rw [Counted.eat, eaten]
  rfl

theorem eat_of_none (absent : eat? spelling tokens = none) :
    (Counted.eat spelling >>= fun found => if found then yes else no) ⟨tokens, depth⟩ =
      no ⟨tokens, depth⟩ := by
  change (Counted.eat spelling ⟨tokens, depth⟩ >>= fun found => _) = _
  rw [Counted.eat, absent]
  rfl

theorem peek_of_some (eaten : eat? spelling tokens = some rest) :
    (Counted.peek spelling >>= fun found => if found then yes else no) ⟨tokens, depth⟩ =
      yes ⟨tokens, depth⟩ := by
  change (if (eat? spelling tokens).isSome then yes else no) ⟨tokens, depth⟩ = _
  rw [eaten]
  rfl

theorem peek_of_none (absent : eat? spelling tokens = none) :
    (Counted.peek spelling >>= fun found => if found then yes else no) ⟨tokens, depth⟩ =
      no ⟨tokens, depth⟩ := by
  change (if (eat? spelling tokens).isSome then yes else no) ⟨tokens, depth⟩ = _
  rw [absent]
  rfl

theorem expect_eq {next : Unit → Counted β} {nextReader : Tokens → Except Refusal (β × Tokens)}
    (others : ∀ rest, expect spelling tokens = .ok rest →
      next () ⟨rest, depth⟩ = (nextReader rest).map (atDepth depth)) :
    (Counted.expect spelling >>= next) ⟨tokens, depth⟩ =
      (expect spelling tokens >>= nextReader).map (atDepth depth) := by
  change (Counted.expect spelling ⟨tokens, depth⟩ >>= fun found => next found.1 found.2) = _
  rw [Counted.expect]
  cases expected : expect spelling tokens with
  | error refusal => rfl
  | ok rest => exact others rest expected

theorem take?_of_some {known : Tokens → Option (α × Tokens)} {next : Option α → Counted β}
    {found : α} (taken : known tokens = some (found, rest)) :
    (Counted.take? known >>= next) ⟨tokens, depth⟩ = next (some found) ⟨rest, depth⟩ := by
  change (Counted.take? known ⟨tokens, depth⟩ >>= fun found => next found.1 found.2) = _
  rw [Counted.take?, taken]
  rfl

theorem take?_of_none {known : Tokens → Option (α × Tokens)} {next : Option α → Counted β}
    (absent : known tokens = none) :
    (Counted.take? known >>= next) ⟨tokens, depth⟩ = next none ⟨tokens, depth⟩ := by
  change (Counted.take? known ⟨tokens, depth⟩ >>= fun found => next found.1 found.2) = _
  rw [Counted.take?, absent]
  rfl

theorem refuseMixed_eq {before : Tokens} {next : Unit → Counted β}
    {nextReader : Unit → Except Refusal (β × Tokens)}
    (others : next () ⟨tokens, depth⟩ = (nextReader ()).map (atDepth depth)) :
    (Counted.refuseMixed before >>= next) ⟨tokens, depth⟩ =
      (refuseMixed before tokens >>= nextReader).map (atDepth depth) := by
  change (Counted.refuseMixed before ⟨tokens, depth⟩ >>= fun found => next found.1 found.2) = _
  rw [Counted.refuseMixed]
  cases refuseMixed before tokens with
  | error refusal => rfl
  | ok _ => exact others

theorem tail_of_eat? (eaten : eat? spelling tokens = some rest) : tokens.tail = rest := by
  rcases exists_of_eat?_eq_some eaten with ⟨placed, rfl, -⟩
  rfl

theorem length_of_eat? (eaten : eat? spelling tokens = some rest) :
    tokens.length = rest.length + 1 := by
  rcases exists_of_eat?_eq_some eaten with ⟨placed, rfl, -⟩
  rfl

theorem length_of_expect (expected : expect spelling tokens = .ok rest) :
    tokens.length = rest.length + 1 := by
  rcases exists_of_expect_eq_ok expected with ⟨placed, rfl, -⟩
  rfl

end

/-! ## Nesting -/

theorem descend_of_lt (below : depth < nestingLimit) (tokens : Tokens) :
    Counted.descend ⟨tokens, depth⟩ = .ok ((), ⟨tokens, depth + 1⟩) := by
  change (if nestingLimit < depth + 1 then Counted.refuse .nestedTooDeeply else pure () :
    Counted Unit) ⟨tokens, depth + 1⟩ = _
  rw [if_neg (by omega)]
  rfl

theorem descend_of_limit_le (full : nestingLimit ≤ depth) (tokens : Tokens) :
    Counted.descend ⟨tokens, depth⟩ = refuse .nestedTooDeeply tokens := by
  change (if nestingLimit < depth + 1 then Counted.refuse .nestedTooDeeply else pure () :
    Counted Unit) ⟨tokens, depth + 1⟩ = _
  rw [if_pos (by omega)]
  rfl

theorem mirrors_nested {body : Counted α} {reader : Tokens → Except Refusal (α × Tokens)}
    (below : depth < nestingLimit) (mirrors : Mirrors rounds (depth + 1) body reader) :
    Mirrors rounds depth (Counted.nested body) reader := by
  intro tokens fits
  have found := mirrors tokens fits
  change (Counted.descend ⟨tokens, depth⟩ >>= fun below => body below.2 >>= fun found => _) = _
  rw [descend_of_lt below]
  change (body ⟨tokens, depth + 1⟩ >>= fun found => _) = _
  rw [found]
  cases reader tokens <;> rfl

/-- A level deeper where there is one, and refused where there is none. -/
theorem mirrors_deeper {levels : Nat} (sum : depth + levels = nestingLimit)
    {body : Counted Expr} {rule : Rules → Rule}
    (mirrors : ∀ lower, levels = lower + 1 →
      Mirrors rounds (depth + 1) body (rule (rules lower))) :
    Mirrors rounds depth (Counted.nested body) (deeper (inner? levels) rule) := by
  cases levels with
  | zero =>
      intro tokens _
      have full : nestingLimit ≤ depth := by omega
      change (Counted.descend ⟨tokens, depth⟩ >>= fun below => body below.2 >>= fun found => _) = _
      rw [descend_of_limit_le full]
      rfl
  | succ lower => exact mirrors_nested (by omega) (mirrors lower rfl)

end

/-! ## Loops -/

/-- Two loops come to the same where neither runs out of rounds: both stop where `known` finds
nothing to begin a round with, and where it does they come to the same if they do with the
fewer tokens after that round. -/
theorem loop_eq {γ : Type} {rounds depth : Nat} (known : Tokens → Option γ)
    {function : Nat → Expr → Counted Expr} {rule : Nat → Expr → Rule}
    (nonempty : ∀ {tokens found}, known tokens = some found → 0 < tokens.length)
    (stops : ∀ {tokens}, known tokens = none → ∀ left first,
      function left first ⟨tokens, depth⟩ = .ok (first, ⟨tokens, depth⟩) ∧
        rule left first tokens = .ok (first, tokens))
    (goesOn : ∀ {tokens found}, known tokens = some found → tokens.length < rounds →
      ∀ left fuel first, (∀ (after : Tokens) next, after.length < tokens.length →
        function left next ⟨after, depth⟩ = (rule fuel next after).map (atDepth depth)) →
      function (left + 1) first ⟨tokens, depth⟩ =
        (rule (fuel + 1) first tokens).map (atDepth depth)) :
    ∀ {left fuel : Nat} {first : Expr} {tokens : Tokens}, tokens.length < rounds →
      tokens.length ≤ left → tokens.length ≤ fuel →
      function left first ⟨tokens, depth⟩ = (rule fuel first tokens).map (atDepth depth) := by
  intro left
  induction left with
  | zero =>
      intro fuel first tokens _ isShort _
      cases found : known tokens with
      | none =>
          rw [(stops found 0 first).1, (stops found fuel first).2]
          rfl
      | some _ => exact absurd (nonempty found) (by omega)
  | succ left induction =>
      intro fuel first tokens fits isShort enough
      cases found : known tokens with
      | none =>
          rw [(stops found (left + 1) first).1, (stops found fuel first).2]
          rfl
      | some _ =>
          have positive := nonempty found
          cases fuel with
          | zero => omega
          | succ fuel =>
              exact goesOn found fits left fuel first fun after next shorter =>
                induction (by omega) (by omega) (by omega)

/-! ## Chains -/

section Chains

variable {rounds depth : Nat} {joint : Joint} {function : Counted Expr} {operand : Rule}

/-- What joins operands is a token. -/
def Takes (joint : Joint) : Prop :=
  ∀ {tokens join rest}, joint tokens = some (join, rest) → tokens.length = rest.length + 1

theorem chainFrom_eq (takes : Takes joint) (mirrors : Mirrors rounds depth function operand)
    (consumes : Consumes operand) {left fuel : Nat} {first : Expr} {tokens : Tokens} :
    tokens.length < rounds → tokens.length ≤ left → tokens.length ≤ fuel →
      Counted.chainFrom joint function left first ⟨tokens, depth⟩ =
        (chainFrom joint operand fuel first tokens).map (atDepth depth) := by
  refine loop_eq joint ?_ ?_ ?_
  · exact fun found => takes found ▸ Nat.zero_lt_succ _
  · intro tokens absent left first
    cases left with
    | zero => exact ⟨rfl, rfl⟩
    | succ left =>
        rw [Counted.chainFrom, take?_of_none absent, chainFrom, absent]
        exact ⟨rfl, rfl⟩
  · rintro tokens ⟨join, rest⟩ found fits left fuel first later
    have taken := takes found
    rw [Counted.chainFrom, take?_of_some found, chainFrom, found]
    refine bind_eq (mirrors rest (by omega)) fun right after read => ?_
    have shorter := consumes.length_lt read
    exact later after _ (by omega)

theorem mirrors_chain (takes : Takes joint) (mirrors : Mirrors rounds depth function operand)
    (consumes : Consumes operand) :
    Mirrors rounds depth (Counted.chain rounds joint function) (chain joint operand) := by
  intro tokens fits
  refine bind_eq (mirrors tokens fits) fun first rest read => ?_
  have shorter := consumes.length_lt read
  exact chainFrom_eq takes mirrors consumes (by omega) (by omega) (Nat.le_refl _)

variable {levels : Nat}

theorem takes_levelJoint (level : List BinaryOperator) : Takes (levelJoint level) := by
  intro tokens join rest found
  rcases Option.map_eq_some_iff.mp found with ⟨⟨operator, after⟩, search, same⟩
  cases same
  rcases exists_of_binaryOperator?_eq_some search with ⟨-, placed, rfl, -⟩
  rfl

theorem takes_logicalJoint (operator : LogicalOperator) : Takes (logicalJoint operator) := by
  intro tokens join rest found
  rcases Option.map_eq_some_iff.mp found with ⟨after, eaten, same⟩
  cases same
  exact length_of_eat? eaten

theorem mirrors_binary (mirrors : Mirrors rounds depth function operand)
    (yields : Yields levels .power operand) : (operators : List (List BinaryOperator)) →
    Mirrors rounds depth (Counted.binary rounds function operators) (binary operand operators)
  | [] => mirrors
  | level :: tighter =>
      mirrors_chain (takes_levelJoint level) (mirrors_binary mirrors yields tighter)
        (consumes_of_yields (yields_binary yields tighter))

theorem mirrors_conjunction (mirrors : Mirrors rounds depth function operand)
    (yields : Yields levels .power operand) :
    Mirrors rounds depth (Counted.conjunction rounds function)
      (logical .and (binary operand BinaryOperator.levels)) :=
  mirrors_chain (takes_logicalJoint .and) (mirrors_binary mirrors yields _)
    (consumes_of_yields (yields_binary yields _))

theorem mirrors_disjunction (mirrors : Mirrors rounds depth function operand)
    (yields : Yields levels .power operand) :
    Mirrors rounds depth (Counted.disjunction rounds function) (disjunction operand) :=
  mirrors_chain (takes_logicalJoint .or) (mirrors_conjunction mirrors yields)
    (consumes_of_yields (yields_conjunction yields))

theorem coalesceFrom_eq (mirrors : Mirrors rounds depth function operand)
    (consumes : Consumes operand) {left fuel : Nat} {first : Expr} {tokens : Tokens} :
    tokens.length < rounds → tokens.length ≤ left → tokens.length ≤ fuel →
      Counted.coalesceFrom function left first ⟨tokens, depth⟩ =
        (coalesceFrom operand fuel first tokens).map (atDepth depth) := by
  refine loop_eq (eat? "??") ?_ ?_ ?_
  · exact fun found => length_of_eat? found ▸ Nat.zero_lt_succ _
  · intro tokens absent left first
    cases left with
    | zero => exact ⟨rfl, rfl⟩
    | succ left =>
        rw [Counted.coalesceFrom, eat_of_none absent, coalesceFrom, absent]
        exact ⟨rfl, rfl⟩
  · intro tokens rest found fits left fuel first later
    have taken := length_of_eat? found
    rw [Counted.coalesceFrom, eat_of_some found, get_eq, coalesceFrom, found]
    refine bind_eq (mirrors rest (by omega)) fun right after read => ?_
    have shorter := consumes.length_lt read
    exact refuseMixed_eq (later after _ (by omega))

theorem mirrors_coalesce (mirrors : Mirrors rounds depth function operand)
    (consumes : Consumes operand) :
    Mirrors rounds depth (Counted.coalesce rounds function) (coalesce operand) := by
  intro tokens fits
  rw [Counted.coalesce, get_eq]
  refine bind_eq (mirrors tokens fits) fun first rest read => ?_
  have shorter := consumes.length_lt read
  cases found : eat? "??" rest with
  | none =>
      rw [peek_of_none found]
      simp only [found]
      rfl
  | some after =>
      rw [peek_of_some found]
      simp only [found]
      exact refuseMixed_eq
        (coalesceFrom_eq mirrors consumes (by omega) (by omega) (Nat.le_refl _))

end Chains

/-! ## Conditionals, powers and unary operators -/

section Operators

variable {rounds depth : Nat} {function : Counted Expr} {operand : Rule}

theorem mirrors_conditionalWith {branch : Counted Expr} {branchRule : Rule}
    (mirrors : Mirrors rounds depth function operand) (consumes : Consumes operand)
    (branchMirrors : Mirrors rounds depth branch branchRule)
    (branchConsumes : Consumes branchRule) :
    Mirrors rounds depth (Counted.conditionalWith function branch)
      (conditionalWith operand branchRule) := by
  intro tokens fits
  refine bind_eq (mirrors tokens fits) fun test rest read => ?_
  have shorter := consumes.length_lt read
  cases found : eat? "?" rest with
  | none =>
      rw [eat_of_none found]
      simp only [found]
      rfl
  | some after =>
      have taken := length_of_eat? found
      rw [eat_of_some found]
      simp only [found]
      refine bind_eq (branchMirrors after (by omega)) fun consequent rest readFirst => ?_
      have := branchConsumes.length_lt readFirst
      refine expect_eq fun afterColon expected => ?_
      have := length_of_expect expected
      exact bind_eq (branchMirrors afterColon (by omega)) fun _ _ _ => rfl

theorem mirrors_powerWith {exponent : Counted Expr} {exponentRule : Rule}
    (mirrors : Mirrors rounds depth function operand) (consumes : Consumes operand)
    (exponentMirrors : Mirrors rounds depth exponent exponentRule) :
    Mirrors rounds depth (Counted.powerWith function exponent)
      (powerWith operand exponentRule) := by
  intro tokens fits
  rw [Counted.powerWith, get_eq]
  refine bind_eq (mirrors tokens fits) fun left rest read => ?_
  have shorter := consumes.length_lt read
  cases found : eat? "**" rest with
  | none =>
      rw [peek_of_none found]
      simp only [found]
      rfl
  | some after =>
      have taken := length_of_eat? found
      rw [peek_of_some found]
      simp only [found]
      split
      · rfl
      · rw [skip_eq, tail_of_eat? found]
        exact bind_eq (exponentMirrors after (by omega)) fun _ _ _ => rfl

theorem mirrors_unaryWith {other : Counted Expr} {otherRule : Rule}
    (mirrors : Mirrors rounds depth function operand)
    (otherMirrors : Mirrors rounds depth other otherRule) :
    Mirrors rounds depth (Counted.unaryWith function other) (unaryWith operand otherRule) := by
  intro tokens fits
  rw [unaryWith, Counted.unaryWith]
  cases found : unaryOperator? tokens with
  | none =>
      rw [take?_of_none found]
      exact otherMirrors tokens fits
  | some next =>
      rcases next with ⟨operator, rest⟩
      rcases exists_of_unaryOperator?_eq_some found with ⟨placed, rfl, -⟩
      rw [take?_of_some found]
      exact bind_eq (mirrors rest (Nat.lt_of_succ_lt fits)) fun _ _ _ => rfl

end Operators

/-! ## Properties -/

section Collections

variable {rounds depth : Nat} {function : Counted Expr} {reader : Rule}

theorem propertiesFrom_eq {left fuel : Nat} {base : Expr} {tokens : Tokens} :
    tokens.length < rounds → tokens.length ≤ left → tokens.length ≤ fuel →
      Counted.propertiesFrom left base ⟨tokens, depth⟩ =
        (propertiesFrom fuel base tokens).map (atDepth depth) := by
  refine loop_eq (eat? ".") ?_ ?_ ?_
  · exact fun found => length_of_eat? found ▸ Nat.zero_lt_succ _
  · intro tokens absent left base
    cases left with
    | zero => exact ⟨rfl, rfl⟩
    | succ left =>
        rw [Counted.propertiesFrom, eat_of_none absent, propertiesFrom, absent]
        exact ⟨rfl, rfl⟩
  · intro tokens rest found fits left fuel base later
    have taken := length_of_eat? found
    have shorter := rest.length_tail
    rw [Counted.propertiesFrom, eat_of_some found, get_eq, propertiesFrom, found]
    dsimp only
    rcases next? rest with - | token
    · rfl
    · cases token with
      | word name =>
          dsimp only
          rw [skip_eq]
          exact later rest.tail _ (by omega)
      | number | string | symbol => rfl

theorem mirrors_properties (mirrors : Mirrors rounds depth function reader)
    (consumes : Consumes reader) :
    Mirrors rounds depth (Counted.properties rounds function) (properties reader) := by
  intro tokens fits
  refine bind_eq (mirrors tokens fits) fun first rest read => ?_
  have shorter := consumes.length_lt read
  exact propertiesFrom_eq (by omega) (by omega) (Nat.le_refl _)

/-! ## Arrays and objects -/

theorem elements_eq (mirrors : Mirrors rounds depth function reader)
    (consumes : Consumes reader) {left : Nat} : ∀ {fuel : Nat} {tokens : Tokens},
    tokens.length < rounds → tokens.length < left → tokens.length < fuel →
      Counted.elements function left ⟨tokens, depth⟩ =
        (elements reader fuel tokens).map (atDepth depth) := by
  induction left with
  | zero => exact fun _ isShort _ => absurd isShort (Nat.not_lt_zero _)
  | succ left induction =>
      intro fuel tokens fits isShort enough
      obtain ⟨fuel, rfl⟩ := Nat.exists_eq_succ_of_ne_zero (Nat.ne_zero_of_lt enough)
      rw [Counted.elements, elements]
      cases closing : eat? "]" tokens with
      | some rest =>
          rw [eat_of_some closing]
          rfl
      | none =>
          rw [eat_of_none closing]
          cases hole : eat? "," tokens with
          | some rest =>
              have taken := length_of_eat? hole
              rw [eat_of_some hole]
              exact bind_eq (induction (by omega) (by omega) (by omega)) fun _ _ _ => rfl
          | none =>
              rw [eat_of_none hole]
              refine bind_eq (mirrors tokens fits) fun first rest read => ?_
              have shorter := consumes.length_lt read
              cases comma : eat? "," rest with
              | some after =>
                  have taken := length_of_eat? comma
                  rw [eat_of_some comma]
                  simp only [comma]
                  exact bind_eq (induction (by omega) (by omega) (by omega)) fun _ _ _ => rfl
              | none =>
                  rw [eat_of_none comma]
                  simp only [comma]
                  exact expect_eq fun _ _ => rfl

theorem mirrors_arrayWith (mirrors : Mirrors rounds depth function reader)
    (consumes : Consumes reader) :
    Mirrors rounds depth (Counted.arrayWith rounds function) (arrayWith reader) := by
  intro tokens fits
  exact bind_eq (elements_eq mirrors consumes fits fits (Nat.lt_succ_self _)) fun _ _ _ => rfl

theorem mirrors_entry (mirrors : Mirrors rounds depth function reader) :
    Mirrors rounds depth (Counted.entry function) (entry reader) := by
  intro tokens fits
  rw [Counted.entry, get_eq, entry]
  dsimp only
  cases (next? tokens).bind entryKey? with
  | none => rfl
  | some found =>
      rcases found with ⟨key, alone⟩
      have shorter := tokens.length_tail
      dsimp only
      rw [skip_eq]
      cases colon : eat? ":" tokens.tail with
      | some rest =>
          have taken := length_of_eat? colon
          rw [eat_of_some colon]
          exact bind_eq (mirrors rest (by omega)) fun _ _ _ => rfl
      | none =>
          rw [eat_of_none colon]
          change (if _ then _ else _ : Counted (String × Expr)) ⟨tokens.tail, depth⟩ = _
          dsimp only
          split <;> rfl

theorem length_of_entry {levels : Nat} (yields : Yields levels .conditional reader)
    {tokens rest : Tokens} {found : String × Expr}
    (read : entry reader tokens = .ok (found, rest)) : rest.length < tokens.length := by
  rcases (begins_of_entry yields read).exists_size_le with ⟨taken, rfl, size⟩
  have positive : 0 < (Phrase.entry found.1 found.2).size := found.2.size_pos
  rw [List.length_append]
  omega

theorem entries_eq {levels : Nat} (mirrors : Mirrors rounds depth function reader)
    (yields : Yields levels .conditional reader) {left : Nat} :
    ∀ {fuel : Nat} {tokens : Tokens},
      tokens.length < rounds → tokens.length < left → tokens.length < fuel →
        Counted.entries function left ⟨tokens, depth⟩ =
          (entries reader fuel tokens).map (atDepth depth) := by
  induction left with
  | zero => exact fun _ isShort _ => absurd isShort (Nat.not_lt_zero _)
  | succ left induction =>
      intro fuel tokens fits isShort enough
      obtain ⟨fuel, rfl⟩ := Nat.exists_eq_succ_of_ne_zero (Nat.ne_zero_of_lt enough)
      rw [Counted.entries, entries]
      cases closing : eat? "\x7d" tokens with
      | some rest =>
          rw [eat_of_some closing]
          rfl
      | none =>
          rw [eat_of_none closing]
          refine bind_eq (mirrors_entry mirrors tokens fits) fun first rest read => ?_
          have shorter := length_of_entry yields read
          cases comma : eat? "," rest with
          | some after =>
              have taken := length_of_eat? comma
              rw [eat_of_some comma]
              simp only [comma]
              exact bind_eq (induction (by omega) (by omega) (by omega)) fun _ _ _ => rfl
          | none =>
              rw [eat_of_none comma]
              simp only [comma]
              exact expect_eq fun _ _ => rfl

theorem mirrors_objectWith {levels : Nat} (mirrors : Mirrors rounds depth function reader)
    (yields : Yields levels .conditional reader) :
    Mirrors rounds depth (Counted.objectWith rounds function) (objectWith reader) := by
  intro tokens fits
  exact bind_eq (entries_eq mirrors yields fits fits (Nat.lt_succ_self _)) fun _ _ _ => rfl

theorem mirrors_primaryWith {array object : Counted Expr} {arrayRule objectRule : Rule}
    (mirrors : Mirrors rounds depth function reader)
    (arrayMirrors : Mirrors rounds depth array arrayRule)
    (objectMirrors : Mirrors rounds depth object objectRule) :
    Mirrors rounds depth (Counted.primaryWith function array object)
      (primaryWith reader arrayRule objectRule) := by
  intro tokens fits
  rw [Counted.primaryWith, get_eq]
  cases tokens with
  | nil => rfl
  | cons placed rest =>
      have inside : rest.length < rounds := Nat.lt_of_succ_lt fits
      rw [primaryWith]
      dsimp only [next?, List.head?_cons, Option.map_some]
      cases placed.token with
      | number | string => rfl
      | word name =>
          dsimp only
          split
          · rfl
          · split
            · rfl
            · split
              · rfl
              · split <;> rfl
      | symbol spelling =>
          dsimp only
          split
          · rw [skip_eq]
            refine bind_eq (mirrors rest inside) fun inner after _ => ?_
            exact expect_eq fun _ _ => rfl
          · split
            · exact arrayMirrors rest inside
            · split
              · exact objectMirrors rest inside
              · rfl

end Collections

/-! ## Calls -/

theorem ParseFunction.consumes (levels : Nat) (function : ParseFunction) :
    Consumes (function.rule levels) := by
  have sound := rules_sound levels
  cases function with
  | conditional => exact consumes_of_yields sound.conditional
  | coalesce => exact consumes_of_yields (yields_coalesce (yields_disjunction sound.power))
  | or => exact consumes_of_yields (yields_disjunction sound.power)
  | and => exact consumes_of_yields (yields_conjunction sound.power)
  | binary operators => exact consumes_of_yields (yields_binary sound.power operators)
  | power => exact consumes_of_yields sound.power
  | unary => exact consumes_of_yields sound.unary
  | member => exact consumes_of_yields (yields_properties (yields_primaryAt levels))
  | primary => exact consumes_of_yields (yields_primaryAt levels)
  | array => exact consumes_deeper fun lower => consumes_arrayWith (rules_sound lower).conditional
  | object =>
      exact consumes_deeper fun lower => consumes_objectWith (rules_sound lower).conditional

/-- The functions do what the rules do where `levels` deeper levels are left. -/
structure MirrorsAll (rounds depth levels : Nat) (functions : Counted.Functions) : Prop where
  conditional : Mirrors rounds depth functions.conditional (rules levels).conditional
  power : Mirrors rounds depth functions.power (rules levels).power
  unary : Mirrors rounds depth functions.unary (rules levels).unary
  primary : Mirrors rounds depth functions.primary (primaryAt levels)
  array : Mirrors rounds depth functions.array (ParseFunction.array.rule levels)
  object : Mirrors rounds depth functions.object (ParseFunction.object.rule levels)
  whole : Mirrors rounds depth functions.whole (rules levels).whole

theorem mirrorsAll_functionsOver {rounds depth levels : Nat} {inner : Counted.Functions}
    (sum : depth + levels = nestingLimit)
    (mirrors : ∀ lower, levels = lower + 1 → MirrorsAll rounds (depth + 1) lower inner) :
    MirrorsAll rounds depth levels (Counted.functionsOver rounds inner) := by
  have sound := rules_sound levels
  have consumes := ParseFunction.consumes levels
  have conditional : Mirrors rounds depth (Counted.nested inner.whole)
      (deeper (inner? levels) Rules.whole) :=
    mirrors_deeper sum fun lower same => (mirrors lower same).whole
  have array : Mirrors rounds depth
      (Counted.nested (Counted.arrayWith rounds inner.conditional))
      (ParseFunction.array.rule levels) :=
    mirrors_deeper sum fun lower same => mirrors_arrayWith (mirrors lower same).conditional
      (consumes_of_yields (rules_sound lower).conditional)
  have object : Mirrors rounds depth
      (Counted.nested (Counted.objectWith rounds inner.conditional))
      (ParseFunction.object.rule levels) :=
    mirrors_deeper sum fun lower same => mirrors_objectWith (mirrors lower same).conditional
      (rules_sound lower).conditional
  have primary := mirrors_primaryWith conditional array object
  have unary : Mirrors rounds depth (Counted.functionsOver rounds inner).unary
      (rules levels).unary := by
    rw [rules_unary]
    exact mirrors_unaryWith (mirrors_deeper sum fun lower same => (mirrors lower same).unary)
      (mirrors_properties primary (consumes .primary))
  have power : Mirrors rounds depth (Counted.functionsOver rounds inner).power
      (rules levels).power := by
    rw [rules_power]
    exact mirrors_powerWith unary (consumes .unary)
      (mirrors_deeper sum fun lower same => (mirrors lower same).power)
  have whole : Mirrors rounds depth (Counted.functionsOver rounds inner).whole
      (rules levels).whole := by
    rw [rules_whole]
    have disjunction := mirrors_disjunction power fun found => sound.power found
    exact mirrors_conditionalWith (mirrors_coalesce disjunction (consumes .or))
      (consumes .coalesce) conditional (rules_conditional levels ▸ consumes .conditional)
  rw [← ruleAt, ← rules_conditional] at conditional
  exact ⟨conditional, power, unary, primary, array, object, whole⟩

theorem mirrorsAll_functions {rounds calls depth levels : Nat}
    (sum : depth + levels = nestingLimit) (enough : levels < calls) :
    MirrorsAll rounds depth levels (Counted.functions rounds calls) := by
  induction calls generalizing depth levels with
  | zero => exact absurd enough (Nat.not_lt_zero levels)
  | succ calls induction =>
      refine mirrorsAll_functionsOver sum fun lower same => ?_
      exact induction (by omega) (by omega)

theorem ParseFunction.mirrors {rounds calls depth levels : Nat}
    (sum : depth + levels = nestingLimit) (enough : levels < calls) (function : ParseFunction) :
    Mirrors rounds depth (function.counted rounds calls) (function.rule levels) := by
  have all : MirrorsAll rounds depth levels (Counted.functions rounds calls) :=
    mirrorsAll_functions sum enough
  have sound := rules_sound levels
  cases function with
  | conditional => exact all.conditional
  | coalesce =>
      exact mirrors_coalesce (mirrors_disjunction all.power fun found => sound.power found)
        (consumes levels .or)
  | or => exact mirrors_disjunction all.power fun found => sound.power found
  | and => exact mirrors_conjunction all.power fun found => sound.power found
  | binary operators => exact mirrors_binary all.power (fun found => sound.power found) operators
  | power => exact all.power
  | unary => exact all.unary
  | member => exact mirrors_properties all.primary (consumes levels .primary)
  | primary => exact all.primary
  | array => exact all.array
  | object => exact all.object

end PageTemplates.Grammar

namespace PageTemplates.Expr

open Grammar

/-- The tokens are parsed as by the function for whole expressions that counts from zero. -/
theorem ofTokens_eq_counted {rounds calls : Nat} {tokens : Tokens}
    (enoughRounds : tokens.length < rounds) (enoughCalls : nestingLimit < calls) :
    ofTokens tokens =
      match ParseFunction.conditional.counted rounds calls ⟨tokens, 0⟩ with
      | .error refusal => .error refusal
      | .ok (tree, ⟨[], _⟩) => .ok tree
      | .ok (_, ⟨extra :: rest, _⟩) => refuse (.trailing extra.token) (extra :: rest) := by
  have found := ParseFunction.conditional.mirrors (Nat.zero_add nestingLimit) enoughCalls tokens
    enoughRounds
  generalize ParseFunction.conditional.counted rounds calls ⟨tokens, 0⟩ = counted at found ⊢
  unfold ofTokens
  change counted = ((rules nestingLimit).conditional tokens).map (atDepth 0) at found
  generalize (rules nestingLimit).conditional tokens = read at found ⊢
  subst found
  rcases read with refusal | ⟨tree, - | ⟨extra, rest⟩⟩ <;> rfl

end PageTemplates.Expr
