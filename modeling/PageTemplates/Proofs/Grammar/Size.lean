import PageTemplates.Proofs.Grammar.Acceptance
import PageTemplates.Proofs.Scan.Layout

/-! # Sizes of trees

Every node of a tree has a token of its own among those that the tree is derived from, and
every token has a character of its own in the source.
-/

namespace PageTemplates

namespace Expr

mutual

/-- The number of nodes of a tree. A hole of an array is none, nor is a key of an object. -/
def size : Expr → Nat
  | .literal _ | .identifier _ => 1
  | .member base _ => base.size + 1
  | .unary _ operand => operand.size + 1
  | .binary _ left right => left.size + right.size + 1
  | .logical _ left right => left.size + right.size + 1
  | .conditional test consequent alternate =>
      test.size + consequent.size + alternate.size + 1
  | .array elements => elementsSize elements + 1
  | .object fields => fieldsSize fields + 1

def elementsSize : List (Option Expr) → Nat
  | [] => 0
  | none :: rest => elementsSize rest
  | some element :: rest => element.size + elementsSize rest

def fieldsSize : List (String × Expr) → Nat
  | [] => 0
  | (_, value) :: rest => value.size + fieldsSize rest

end

theorem size_pos (tree : Expr) : 0 < tree.size := by
  cases tree <;> exact Nat.zero_lt_succ _

end Expr

namespace Grammar

def Phrase.size : Phrase → Nat
  | .expression _ tree => tree.size
  | .elements items => Expr.elementsSize items
  | .entry _ value => value.size
  | .entries fields => Expr.fieldsSize fields

/-- A phrase has no more nodes than words. What joins nodes to a larger one is a word. -/
theorem Derives.size_le {phrase : Phrase} {words : List Token} {depth : Nat}
    (derived : Derives phrase words depth) : phrase.size ≤ words.length := by
  induction derived with
  | test _ induction | uncoalesced _ induction | coalescedOperand _ induction
  | conjunction _ induction | operand _ induction | power _ induction | tighter _ induction
  | unary _ induction | member _ induction | primary _ induction => exact induction
  | _ =>
      simp only [Phrase.size, Expr.size, Expr.elementsSize, Expr.fieldsSize, List.length_append,
        List.length_cons, List.length_nil] at *
      omega

/-! ## What the rules take -/

/-- What the rule reads is an expression with no more nodes than it takes tokens. -/
def Consumes (rule : Rule) : Prop :=
  ∀ ⦃tokens tree rest⦄, rule tokens = .ok (tree, rest) →
    ∃ read, tokens = read ++ rest ∧ tree.size ≤ read.length

theorem Consumes.length_lt {rule : Rule} (consumes : Consumes rule) {tokens rest : Tokens}
    {tree : Expr} (read : rule tokens = .ok (tree, rest)) : rest.length < tokens.length := by
  rcases consumes read with ⟨taken, rfl, size⟩
  have positive := tree.size_pos
  rw [List.length_append]
  omega

theorem Begins.exists_size_le {levels : Nat} {phrase : Phrase} {tokens rest : Tokens}
    (begins : Begins levels phrase tokens rest) :
    ∃ read, tokens = read ++ rest ∧ phrase.size ≤ read.length := by
  rcases begins with ⟨read, same, depth, derived, -⟩
  exact ⟨read, same, by simpa using derived.size_le⟩

theorem consumes_of_yields {levels : Nat} {rank : Rank} {rule : Rule}
    (yields : Yields levels rank rule) : Consumes rule :=
  fun _ _ _ found => (yields found).exists_size_le

theorem opens_deeper {opening : String} {rule : Rules → Rule}
    (opens : ∀ lower, Opens (lower + 1) opening (rule (rules lower))) (levels : Nat) :
    Opens levels opening (deeper (inner? levels) rule) := by
  cases levels with
  | zero => exact fun _ found => nomatch found
  | succ lower => exact opens lower

theorem yields_primaryAt (levels : Nat) : Yields levels .primary (primaryAt levels) := by
  refine yields_primaryWith ?_
    (opens_deeper (fun lower => opens_array (rules_sound lower).conditional) levels)
    (opens_deeper (fun lower => opens_object (rules_sound lower).conditional) levels)
  intro tokens tree rest found
  rw [← ruleAt, ← rules_conditional] at found
  exact (rules_sound levels).conditional found

/-- What stands inside brackets, with the closing one: a token for the node of the whole. -/
theorem Begins.exists_closed {levels : Nat} {phrase : Phrase} {tokens rest : Tokens}
    {closing : Token.Placed} (begins : Begins levels phrase tokens (closing :: rest)) :
    ∃ read, tokens = read ++ rest ∧ phrase.size + 1 ≤ read.length := by
  rcases begins.exists_size_le with ⟨taken, rfl, size⟩
  exact ⟨taken ++ [closing], by simp, by simpa using size⟩

theorem consumes_arrayWith {levels : Nat} {element : Rule}
    (yields : Yields levels .conditional element) : Consumes (arrayWith element) := by
  intro tokens tree rest found
  rcases exists_of_bind_eq_ok found with ⟨⟨items, after⟩, read, done⟩
  cases done
  rcases begins_of_elements yields _ read with ⟨closing, -, begins⟩
  exact begins.exists_closed

theorem consumes_objectWith {levels : Nat} {value : Rule}
    (yields : Yields levels .conditional value) : Consumes (objectWith value) := by
  intro tokens tree rest found
  rcases exists_of_bind_eq_ok found with ⟨⟨fields, after⟩, read, done⟩
  cases done
  rcases begins_of_entries yields _ read with ⟨closing, -, begins⟩
  exact begins.exists_closed

theorem consumes_deeper {levels : Nat} {rule : Rules → Rule}
    (consumes : ∀ lower, Consumes (rule (rules lower))) :
    Consumes (deeper (inner? levels) rule) := by
  cases levels with
  | zero => exact fun _ _ _ found => nomatch found
  | succ lower => exact consumes lower

end Grammar

/-! ## Tokens of a source -/

theorem Token.Layout.length_le {offset : Nat} {source : List Char} {placed : List Placed}
    {texts : List String} (layout : Layout offset source placed texts) :
    placed.length ≤ source.length := by
  induction layout with
  | last => exact Nat.zero_le _
  | token _ nonempty _ _ _ induction =>
      have positive := List.length_pos_iff.mpr (mt String.toList_eq_nil_iff.mp nonempty)
      rw [List.length_append, List.length_append, List.length_cons]
      omega

theorem Token.length_le_of_scan {source : String} {tokens : List Placed}
    (scanned : scan source = .ok tokens) : tokens.length ≤ Text.unitCount source := by
  rcases exists_layout_of_scan scanned with ⟨texts, layout, -⟩
  exact layout.length_le.trans (Text.length_le_unitCount source)

namespace Expr

theorem size_le_of_ofTokens {tokens : Grammar.Tokens} {tree : Expr}
    (accepted : ofTokens tokens = .ok tree) : tree.size ≤ tokens.length := by
  rcases ofTokens_eq_ok_iff.mp accepted with ⟨depth, derived, -⟩
  simpa [Grammar.Phrase.size] using derived.size_le

theorem sizes_of_parse {source : String} {tree : Expr} (parsed : parse source = .ok tree) :
    ∃ tokens, Token.scan source = .ok tokens ∧ tree.size ≤ tokens.length ∧
      tokens.length ≤ Text.unitCount source := by
  rcases parse_eq_ok_iff.mp parsed with ⟨tokens, scanned, accepted⟩
  exact ⟨tokens, scanned, size_le_of_ofTokens accepted, Token.length_le_of_scan scanned⟩

end Expr

end PageTemplates
