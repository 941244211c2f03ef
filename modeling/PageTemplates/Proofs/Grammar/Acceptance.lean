import PageTemplates.Proofs.Grammar.Completeness
import PageTemplates.Proofs.Grammar.Soundness

/-! # What is accepted

Sources are parsed exactly as the grammar derives them: a source is accepted with a tree if
and only if its tokens are derived as an expression with that tree, nested no deeper than
the limit. There is never more than one such tree, and a derived expression that is
refused is refused for its nesting alone.
-/

namespace PageTemplates.Grammar

theorem ends_nil (rank : Rank) : Ends rank [] := by
  intro token next
  cases next

theorem Derives.finds {tokens : Tokens} {tree : Expr} {depth : Nat}
    (derived : Derives (.expression .conditional tree) (tokens.map (·.token)) depth)
    (levels : Nat) :
    Finds levels depth (· = .ok (tree, [])) ((rules levels).conditional tokens) := by
  have reads : Reads levels .conditional tree (tokens.map (·.token)) depth :=
    derived.isRead levels trivial
  have found := reads.closed rfl (ends_nil .conditional)
  rwa [List.append_nil, ← rules_conditional] at found

theorem rules_conditional_eq_ok_iff {levels : Nat} {tokens : Tokens} {tree : Expr} :
    (rules levels).conditional tokens = .ok (tree, []) ↔
      Derivable levels (.expression .conditional tree) (tokens.map (·.token)) := by
  constructor
  · intro read
    rcases (rules_sound levels).conditional read with ⟨taken, rfl, derivable⟩
    rwa [List.append_nil]
  · rintro ⟨depth, derived, bound⟩
    exact (derived.finds levels).within bound

theorem Derives.unique {words : List Token} {left right : Expr} {leftDepth rightDepth : Nat}
    (leftDerived : Derives (.expression .conditional left) words leftDepth)
    (rightDerived : Derives (.expression .conditional right) words rightDepth) :
    left = right ∧ leftDepth = rightDepth := by
  let tokens : Tokens := words.map fun word => ⟨word, 0, 0⟩
  have spelled : tokens.map (·.token) = words := by
    rw [List.map_map]
    exact List.map_id words
  rw [← spelled] at leftDerived rightDerived
  have trees : left = right := by
    have first := (leftDerived.finds (max leftDepth rightDepth)).within (Nat.le_max_left _ _)
    have second := (rightDerived.finds (max leftDepth rightDepth)).within (Nat.le_max_right _ _)
    rw [first] at second
    cases second
    rfl
  -- Were one of the depths smaller, the rules with just enough levels for it would both
  -- read the expression and refuse it.
  have least {first second : Expr} {firstDepth secondDepth : Nat}
      (firstDerived : Derives (.expression .conditional first) (tokens.map (·.token))
        firstDepth)
      (secondDerived : Derives (.expression .conditional second) (tokens.map (·.token))
        secondDepth) : ¬ firstDepth < secondDepth := by
    intro less
    have found := (firstDerived.finds firstDepth).within (Nat.le_refl _)
    rcases (secondDerived.finds firstDepth).beyond less with ⟨position?, refused⟩
    rw [found] at refused
    cases refused
  exact ⟨trees, Nat.le_antisymm (Nat.not_lt.mp (least rightDerived leftDerived))
    (Nat.not_lt.mp (least leftDerived rightDerived))⟩

end PageTemplates.Grammar

namespace PageTemplates.Expr

open Grammar

theorem ofTokens_eq_ok_iff {tokens : Tokens} {tree : Expr} :
    ofTokens tokens = .ok tree ↔
      Derivable nestingLimit (.expression .conditional tree) (tokens.map (·.token)) := by
  rw [← rules_conditional_eq_ok_iff]
  unfold ofTokens
  constructor
  · intro accepted
    split at accepted
    · cases accepted
    · rename_i read
      cases accepted
      exact read
    · cases accepted
  · intro read
    rw [read]

theorem ofTokens_of_nestingLimit_lt {tokens : Tokens} {tree : Expr} {depth : Nat}
    (derived : Derives (.expression .conditional tree) (tokens.map (·.token)) depth)
    (exceeded : nestingLimit < depth) :
    ∃ position?, ofTokens tokens = .error ⟨.nestedTooDeeply, position?⟩ := by
  rcases (derived.finds nestingLimit).beyond exceeded with ⟨position?, refused⟩
  refine ⟨position?, ?_⟩
  unfold ofTokens
  rw [refused]

theorem parse_eq_ok_iff {source : String} {tree : Expr} :
    parse source = .ok tree ↔
      ∃ tokens, Token.scan source = .ok tokens ∧ ofTokens tokens = .ok tree := by
  rw [parse]
  constructor
  · intro accepted
    split at accepted
    · cases accepted
    · rename_i tokens scanned
      split at accepted
      · rename_i found
        cases accepted
        exact ⟨tokens, scanned, found⟩
      · cases accepted
  · rintro ⟨tokens, scanned, found⟩
    rw [scanned]
    simp only [found]

end PageTemplates.Expr
