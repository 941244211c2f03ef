import Mathlib.Tactic.IntervalCases
import PageTemplates.Proofs.Grammar.Acceptance
import PageTemplates.Proofs.Scan.Spelling

/-! # Printed expressions

Every tree of names that the scanner knows has a printed form: its tokens in order, with
parentheses only where a part binds more loosely than its place asks for. The printed form
is derived as the tree, and so it is parsed as the tree unless it nests too deeply.
-/

namespace PageTemplates

/-! ## How tightly constructs bind -/

def BinaryOperator.strength : BinaryOperator → Nat
  | .bitOr => 4
  | .bitXor => 5
  | .bitAnd => 6
  | .strictEqual | .strictUnequal | .looseEqual | .looseUnequal => 7
  | .lessOrEqual | .greaterOrEqual | .less | .greater | .within => 8
  | .shiftRightZero | .shiftLeft | .shiftRight => 9
  | .add | .subtract => 10
  | .multiply | .divide | .remainder => 11
  | .power => 12

def LogicalOperator.strength : LogicalOperator → Nat
  | .coalesce => 1
  | .or => 2
  | .and => 3

/-- How tightly a tree binds by its outermost construct. -/
def Expr.strength : Expr → Nat
  | .conditional .. => 0
  | .logical operator .. => operator.strength
  | .binary operator .. => operator.strength
  | .unary .. => 13
  | .member .. => 14
  | .literal _ | .identifier _ | .array _ | .object _ => 15

/-! The operators of a level group to the left, but powers to the right. The base of a power
is a primary expression, perhaps with properties. -/

def BinaryOperator.leastLeft : BinaryOperator → Nat
  | .power => 14
  | operator => operator.strength

def BinaryOperator.leastRight : BinaryOperator → Nat
  | .power => 12
  | operator => operator.strength + 1

/-- An operand of `??` is no `||` or `&&`, and conversely; but to the left of `??` there may
be another `??`. -/
def LogicalOperator.leastLeft : LogicalOperator → Expr → Nat
  | .coalesce, .logical .coalesce _ _ => 1
  | .coalesce, _ => 4
  | operator, _ => operator.strength

def LogicalOperator.leastRight : LogicalOperator → Nat
  | .coalesce => 4
  | operator => operator.strength + 1

/-! ## Printed forms -/

def Literal.token : Literal → Token
  | .null => .word "null"
  | .boolean true => .word "true"
  | .boolean false => .word "false"
  | .number value => .number value
  | .string value => .string value

namespace Expr

/-- The words of a tree where it stands in a place that asks for `least` strength. -/
def placed (tree : Expr) (least : Nat) (words : List Token) : List Token :=
  if tree.strength < least then .symbol "(" :: (words ++ [.symbol ")"]) else words

mutual

/-- The tokens of a tree that stands alone. -/
def words : Expr → List Token
  | .literal value => [value.token]
  | .identifier name => [.word name]
  | .member base property =>
      base.placed 14 base.words ++ [.symbol ".", .word property]
  | .unary operator operand => operator.token :: operand.placed 13 operand.words
  | .binary operator left right =>
      left.placed operator.leastLeft left.words ++
        operator.token :: right.placed operator.leastRight right.words
  | .logical operator left right =>
      left.placed (operator.leastLeft left) left.words ++
        .symbol operator.symbol :: right.placed operator.leastRight right.words
  | .conditional test consequent alternate =>
      test.placed 1 test.words ++
        .symbol "?" :: (consequent.words ++ .symbol ":" :: alternate.words)
  | .array elements => .symbol "[" :: (elementsWords elements ++ [.symbol "]"])
  | .object entries => .symbol "\x7b" :: (entriesWords entries ++ [.symbol "\x7d"])

/-- A comma follows every element, and is all there is of a hole. -/
def elementsWords : List (Option Expr) → List Token
  | [] => []
  | none :: rest => .symbol "," :: elementsWords rest
  | some element :: rest => element.words ++ .symbol "," :: elementsWords rest

/-- Every key is a string. -/
def entriesWords : List (String × Expr) → List Token
  | [] => []
  | (key, value) :: rest =>
      .string key :: .symbol ":" ::
        (value.words ++ if rest.isEmpty then [] else .symbol "," :: entriesWords rest)

end

mutual

/-- Whether the scanner knows every name in the tree, and no variable has a reserved word
for its name. Strings and the keys of objects may be any. -/
def isPrintable : Expr → Bool
  | .literal _ => true
  | .identifier name => Token.isName name.toList && !Token.isReserved name
  | .member base property => Token.isName property.toList && base.isPrintable
  | .unary _ operand => operand.isPrintable
  | .binary _ left right => left.isPrintable && right.isPrintable
  | .logical _ left right => left.isPrintable && right.isPrintable
  | .conditional test consequent alternate =>
      test.isPrintable && consequent.isPrintable && alternate.isPrintable
  | .array elements => elementsPrintable elements
  | .object entries => entriesPrintable entries

def elementsPrintable : List (Option Expr) → Bool
  | [] => true
  | none :: rest => elementsPrintable rest
  | some element :: rest => element.isPrintable && elementsPrintable rest

def entriesPrintable : List (String × Expr) → Bool
  | [] => true
  | (_, value) :: rest => value.isPrintable && entriesPrintable rest

end

/-- How deep a tree nests where it stands in a place that asks for `least` strength: in
parentheses it is a whole expression, which takes a level. -/
def nestedIn (tree : Expr) (least : Nat) (levels : Nat) : Nat :=
  if tree.strength < least then levels + 1 else levels

mutual

/-- How many levels the printed form of a tree nests below the one that it stands on. -/
def nesting : Expr → Nat
  | .literal _ | .identifier _ => 0
  | .member base _ => base.nestedIn 14 base.nesting
  | .unary _ operand => operand.nestedIn 13 operand.nesting + 1
  | .binary operator left right =>
      max (left.nestedIn operator.leastLeft left.nesting)
        (right.nestedIn operator.leastRight right.nesting +
          if operator = .power then 1 else 0)
  | .logical operator left right =>
      max (left.nestedIn (operator.leastLeft left) left.nesting)
        (right.nestedIn operator.leastRight right.nesting)
  | .conditional test consequent alternate =>
      max (test.nestedIn 1 test.nesting)
        (max (consequent.nesting + 1) (alternate.nesting + 1))
  | .array elements => elementsNesting elements + 1
  | .object entries => entriesNesting entries + 1

def elementsNesting : List (Option Expr) → Nat
  | [] => 0
  | none :: rest => elementsNesting rest
  | some element :: rest => max (element.nesting + 1) (elementsNesting rest)

def entriesNesting : List (String × Expr) → Nat
  | [] => 0
  | (_, value) :: rest => max (value.nesting + 1) (entriesNesting rest)

end

/-- A power in parentheses, with a conditional for its exponent. -/
example :
    (Expr.unary .negate (.binary .power (.member (.identifier "a") "b")
      (.conditional (.identifier "c") (.literal .null) (.array [none])))).words =
    [.symbol "-", .symbol "(", .word "a", .symbol ".", .word "b", .symbol "**",
      .symbol "(", .word "c", .symbol "?", .word "null", .symbol ":", .symbol "[",
      .symbol ",", .symbol "]", .symbol ")", .symbol ")"] := by decide +kernel

end Expr

namespace Grammar

/-! ## Ranks by strength -/

/-- The rank of the expressions that bind at least as tightly as a strength tells. -/
def Rank.ofStrength : Nat → Rank
  | 0 => .conditional
  | 1 => .coalescing
  | 2 => .disjunction
  | 3 => .conjunction
  | 12 => .power
  | 13 => .unary
  | 14 => .member
  | 15 => .primary
  | strength => .binary (BinaryOperator.levels.drop (strength - 4))

variable {tree left right : Expr} {words leftWords rightWords : List Token}
  {depth leftDepth rightDepth : Nat}

theorem Derives.loosened {strength : Nat} (positive : 0 < strength) (bound : strength < 15)
    (derived : Derives (.expression (.ofStrength (strength + 1)) tree) words depth) :
    Derives (.expression (.ofStrength strength) tree) words depth := by
  interval_cases strength
  case «1» => exact .uncoalesced derived
  case «2» => exact .conjunction derived
  case «3» => exact .operand derived
  case «11» => exact .tighter (.power derived)
  case «12» => exact .unary derived
  case «13» => exact .member derived
  case «14» => exact .primary derived
  all_goals exact .tighter derived

/-- An expression is one of every looser rank, but for whole expressions, which nest. -/
theorem Derives.loosenedTo {least strength : Nat} (positive : 0 < least)
    (looser : least ≤ strength) (bound : strength ≤ 15)
    (derived : Derives (.expression (.ofStrength strength) tree) words depth) :
    Derives (.expression (.ofStrength least) tree) words depth := by
  induction looser with
  | refl => exact derived
  | @step strength looser induction =>
      have positive : 0 < strength := Nat.lt_of_lt_of_le positive looser
      exact induction (Nat.le_of_succ_le bound) (derived.loosened positive bound)

theorem Derives.joined {operator : BinaryOperator} (noPower : operator ≠ .power)
    (leftDerived : Derives (.expression (.ofStrength operator.leastLeft) left) leftWords
      leftDepth)
    (rightDerived : Derives (.expression (.ofStrength operator.leastRight) right) rightWords
      rightDepth) :
    Derives (.expression (.ofStrength operator.strength) (.binary operator left right))
      (leftWords ++ operator.token :: rightWords) (max leftDepth rightDepth) := by
  cases operator
  case power => exact absurd rfl noPower
  case multiply | divide | remainder =>
    exact .binary (by decide) leftDerived (.power rightDerived)
  all_goals exact .binary (by decide) leftDerived rightDerived

/-! ## Derivations of printed forms -/

/-- The printed form of a tree is derived as the tree, alone and as an operand. -/
structure Printed (tree : Expr) : Prop where
  whole : Derives (.expression .conditional tree) tree.words (tree.nesting + 1)
  operand : 0 < tree.strength →
    Derives (.expression (.ofStrength tree.strength) tree) tree.words tree.nesting
  /-- Operands of `??` may stand before another one. -/
  coalesced : ∀ left right, tree = .logical .coalesce left right →
    Derives (.expression .coalesced tree) tree.words tree.nesting

theorem BinaryOperator.strength_bounds (operator : BinaryOperator) :
    0 < operator.strength ∧ operator.strength ≤ 15 := by
  cases operator <;> decide

theorem LogicalOperator.strength_bounds (operator : LogicalOperator) :
    0 < operator.strength ∧ operator.strength ≤ 15 := by
  cases operator <;> decide

theorem strength_le (tree : Expr) : tree.strength ≤ 15 := by
  cases tree with
  | binary operator => exact (BinaryOperator.strength_bounds operator).2
  | logical operator => exact (LogicalOperator.strength_bounds operator).2
  | literal | identifier | member | unary | conditional | array | object =>
      simp [Expr.strength]

theorem Printed.ofOperand {tree : Expr} (positive : 0 < tree.strength)
    (other : ∀ left right, tree ≠ .logical .coalesce left right)
    (derived : Derives (.expression (.ofStrength tree.strength) tree) tree.words
      tree.nesting) : Printed tree where
  whole := .test (derived.loosenedTo Nat.one_pos positive (strength_le tree))
  operand _ := derived
  coalesced left right equal := absurd equal (other left right)

theorem Printed.placed {tree : Expr} (printed : Printed tree) (least : Nat)
    (bounds : 0 < least ∧ least ≤ 15) :
    Derives (.expression (.ofStrength least) tree) (tree.placed least tree.words)
      (tree.nestedIn least tree.nesting) := by
  rw [Expr.placed, Expr.nestedIn]
  split
  next =>
    have primary : Derives (.expression (.ofStrength 15) tree)
        (.symbol "(" :: (tree.words ++ [.symbol ")"])) (tree.nesting + 1) :=
      .bracketed printed.whole
    exact primary.loosenedTo bounds.1 bounds.2 (Nat.le_refl 15)
  next tight =>
    have enough : least ≤ tree.strength := Nat.not_lt.mp tight
    exact (printed.operand (Nat.lt_of_lt_of_le bounds.1 enough)).loosenedTo bounds.1 enough
      (strength_le tree)

/-- What stands to the left of `??` is a chain of operands of it, or a single one. -/
theorem Printed.leftOfCoalesce {tree : Expr} (printed : Printed tree) :
    Derives (.expression .coalesced tree)
      (tree.placed (LogicalOperator.coalesce.leastLeft tree) tree.words)
      (tree.nestedIn (LogicalOperator.coalesce.leastLeft tree) tree.nesting) := by
  unfold LogicalOperator.leastLeft
  split
  next left right _ => exact printed.coalesced left right rfl
  next => exact .coalescedOperand (printed.placed 4 (by decide))
  next other _ => exact absurd rfl other

theorem BinaryOperator.least_bounds (operator : BinaryOperator) :
    (0 < operator.leastLeft ∧ operator.leastLeft ≤ 15) ∧
      0 < operator.leastRight ∧ operator.leastRight ≤ 15 := by
  cases operator <;> decide

theorem printed_binary (operator : BinaryOperator) {left right : Expr}
    (leftPrinted : Printed left) (rightPrinted : Printed right) :
    Printed (.binary operator left right) := by
  have positive := (BinaryOperator.strength_bounds operator).1
  rcases BinaryOperator.least_bounds operator with ⟨leftBounds, rightBounds⟩
  have leftDerived := leftPrinted.placed _ leftBounds
  have rightDerived := rightPrinted.placed _ rightBounds
  refine .ofOperand positive nofun ?_
  rw [Expr.words, Expr.nesting]
  by_cases power : operator = .power
  · subst power
    exact .raise leftDerived rightDerived
  · rw [if_neg power, Nat.add_zero]
    exact leftDerived.joined power rightDerived

theorem printed_logical (operator : LogicalOperator) {left right : Expr}
    (leftPrinted : Printed left) (rightPrinted : Printed right) :
    Printed (.logical operator left right) := by
  cases operator with
  | or =>
      refine .ofOperand (Nat.succ_pos _) nofun ?_
      rw [Expr.words, Expr.nesting]
      exact .or (leftPrinted.placed 2 (by decide))
        (rightPrinted.placed 3 (by decide))
  | and =>
      refine .ofOperand (Nat.succ_pos _) nofun ?_
      rw [Expr.words, Expr.nesting]
      exact .and (leftPrinted.placed 3 (by decide))
        (rightPrinted.placed 4 (by decide))
  | coalesce =>
      have leftDerived := leftPrinted.leftOfCoalesce
      have rightDerived := rightPrinted.placed 4 (by decide)
      constructor
      · rw [Expr.words, Expr.nesting]
        exact .test (.coalesced leftDerived rightDerived)
      · intro
        rw [Expr.words, Expr.nesting]
        exact .coalesced leftDerived rightDerived
      · intro _ _ _
        rw [Expr.words, Expr.nesting]
        exact .coalescedMore leftDerived rightDerived

theorem printed_literal (literal : Literal) : Printed (.literal literal) := by
  refine .ofOperand (Nat.succ_pos _) nofun (.constant ?_)
  cases literal with
  | null => exact .null
  | number value => exact .number value
  | string value => exact .string value
  | boolean value =>
      cases value
      · exact .false
      · exact .true

mutual

theorem printed_of_isPrintable :
    (tree : Expr) → tree.isPrintable = true → Printed tree
  | .literal literal, _ => printed_literal literal
  | .identifier name, printable => by
      rw [Expr.isPrintable, Bool.and_eq_true, Bool.not_eq_true'] at printable
      exact .ofOperand (Nat.succ_pos _) nofun (.identifier printable.2)
  | .member base property, printable => by
      rw [Expr.isPrintable, Bool.and_eq_true] at printable
      have printed := printed_of_isPrintable base printable.2
      refine .ofOperand (Nat.succ_pos _) nofun ?_
      rw [Expr.words, Expr.nesting]
      exact .property property (printed.placed 14 (by decide))
  | .unary operator operand, printable => by
      rw [Expr.isPrintable] at printable
      have printed := printed_of_isPrintable operand printable
      refine .ofOperand (Nat.succ_pos _) nofun ?_
      rw [Expr.words, Expr.nesting]
      exact .apply operator (printed.placed 13 (by decide))
  | .binary operator left right, printable => by
      rw [Expr.isPrintable, Bool.and_eq_true] at printable
      exact printed_binary operator (printed_of_isPrintable left printable.1)
        (printed_of_isPrintable right printable.2)
  | .logical operator left right, printable => by
      rw [Expr.isPrintable, Bool.and_eq_true] at printable
      exact printed_logical operator (printed_of_isPrintable left printable.1)
        (printed_of_isPrintable right printable.2)
  | .conditional test consequent alternate, printable => by
      rw [Expr.isPrintable, Bool.and_eq_true, Bool.and_eq_true] at printable
      have tests := printed_of_isPrintable test printable.1.1
      have consequents := printed_of_isPrintable consequent printable.1.2
      have alternates := printed_of_isPrintable alternate printable.2
      constructor
      · rw [Expr.words, Expr.nesting]
        exact .branches (tests.placed 1 (by decide))
          consequents.whole alternates.whole
      · intro positive
        cases positive
      · exact nofun
  | .array elements, printable => by
      rw [Expr.isPrintable] at printable
      refine .ofOperand (Nat.succ_pos _) nofun ?_
      rw [Expr.words, Expr.nesting]
      exact .array (derives_elements elements printable)
  | .object entries, printable => by
      rw [Expr.isPrintable] at printable
      refine .ofOperand (Nat.succ_pos _) nofun ?_
      rw [Expr.words, Expr.nesting]
      exact .object (derives_entries entries printable)

theorem derives_elements :
    (elements : List (Option Expr)) → Expr.elementsPrintable elements = true →
      Derives (.elements elements) (Expr.elementsWords elements)
        (Expr.elementsNesting elements)
  | [], _ => .noElements
  | none :: rest, printable => by
      rw [Expr.elementsPrintable] at printable
      exact .hole (derives_elements rest printable)
  | some element :: rest, printable => by
      rw [Expr.elementsPrintable, Bool.and_eq_true] at printable
      exact .element (printed_of_isPrintable element printable.1).whole
        (derives_elements rest printable.2)

theorem derives_entries :
    (entries : List (String × Expr)) → Expr.entriesPrintable entries = true →
      Derives (.entries entries) (Expr.entriesWords entries) (Expr.entriesNesting entries)
  | [], _ => .noEntries
  | (key, value) :: rest, printable => by
      rw [Expr.entriesPrintable, Bool.and_eq_true] at printable
      have keyed := Derives.keyed (.string key) (printed_of_isPrintable value printable.1).whole
      rw [Expr.entriesWords, Expr.entriesNesting]
      cases rest with
      | nil =>
          rw [Expr.entriesNesting, Nat.max_zero]
          simpa using .lastField keyed
      | cons next rest => exact .field keyed (derives_entries (next :: rest) printable.2)

end

end Grammar

end PageTemplates
