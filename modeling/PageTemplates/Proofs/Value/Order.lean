import PageTemplates.Proofs.Text.Units
import PageTemplates.Value.Operation

/-! # Laws of order

Comparing two values the other way round swaps the answer, so `<` and `>` are converses and
so are `<=` and `>=`. Strings are ordered totally by their code units. There is no answer
beside what is no number.
-/

namespace PageTemplates

namespace Value

open Float.Model (UnpackedFloat)

/-! ## Numbers -/

/-- The order of exact values swaps with its sides: the sign decides first, then the power
of two and the significand, both reversed below zero. -/
theorem compare_unpacked_swap (left right : UnpackedFloat) :
    right.compare left = (left.compare right).map Ordering.swap := by
  cases left with
  | notANumber => cases right <;> rfl
  | infinity sign =>
      cases right with
      | infinity other => cases sign <;> cases other <;> rfl
      | _ => cases sign <;> rfl
  | zero sign =>
      cases right with
      | infinity other | finite other => cases other <;> rfl
      | _ => rfl
  | finite sign significand exponent =>
      cases right with
      | notANumber => cases sign <;> rfl
      | infinity other => cases sign <;> cases other <;> rfl
      | zero => cases sign <;> rfl
      | finite other otherSignificand otherExponent =>
          have sizes : (compare otherExponent exponent).then
                (compare otherSignificand significand) =
              ((compare exponent otherExponent).then
                (compare significand otherSignificand)).swap := by
            rw [Ordering.swap_then, ← Std.OrientedOrd.eq_swap, ← Std.OrientedOrd.eq_swap]
          cases sign with
          | positive =>
              cases other with
              | positive => exact congrArg some sizes
              | negative => rfl
          | negative =>
              cases other with
              | positive => rfl
              | negative => exact congrArg (fun order => some order.swap) sizes

theorem lt_iff_compare (left right : Float) :
    left < right ↔ left.toModel.unpack.compare right.toModel.unpack = some .lt := by
  change decide (left.toModel < right.toModel) = true ↔ _
  rw [decide_eq_true_iff]
  exact @beq_iff_eq (Option Ordering) _ _ _ _

theorem beq_iff_compare (left right : Float) :
    (left == right) = true ↔
      left.toModel.unpack.compare right.toModel.unpack = some .eq :=
  @beq_iff_eq (Option Ordering) _ _ _ _

theorem compareNumbers_eq_compare (left right : Float) :
    compareNumbers left right = left.toModel.unpack.compare right.toModel.unpack := by
  simp only [compareNumbers, lt_iff_compare, beq_iff_compare,
    compare_unpacked_swap left.toModel.unpack]
  cases left.toModel.unpack.compare right.toModel.unpack with
  | none => rfl
  | some order => cases order <;> rfl

theorem compareNumbers_swap (left right : Float) :
    compareNumbers right left = (compareNumbers left right).map Ordering.swap := by
  rw [compareNumbers_eq_compare, compareNumbers_eq_compare, compare_unpacked_swap]

/-! ## Strings -/

theorem compareStrings_eq_compare (left right : String) :
    compareStrings left right = compare (Text.units left) (Text.units right) :=
  Text.compareUnits_eq_compare _ _

theorem compareStrings_swap (left right : String) :
    compareStrings right left = (compareStrings left right).swap := by
  rw [compareStrings_eq_compare, compareStrings_eq_compare]
  exact Std.OrientedOrd.eq_swap

theorem compareStrings_eq_eq {left right : String} :
    compareStrings left right = .eq ↔ left = right := by
  rw [compareStrings_eq_compare, Std.LawfulEqOrd.compare_eq_iff_eq]
  exact ⟨Text.units_injective, congrArg Text.units⟩

/-! ## All values -/

theorem order?_swap (left right : Value) :
    order? right left = (order? left right).map Ordering.swap := by
  unfold order?
  split
  next rightText leftText isRight isLeft =>
    rw [isRight, isLeft]
    exact congrArg some (compareStrings_swap leftText rightText)
  next apart =>
    split
    next leftText rightText isLeft isRight => exact absurd isLeft (apart _ _ isRight)
    next => exact compareNumbers_swap _ _

end Value

/-! ## The operators -/

namespace BinaryOperator

open Value (order? order?_swap)

/-- The operator answers `true`. -/
def Holds (operator : BinaryOperator) (left right : Value) : Prop :=
  operator.apply left right = .ok (.boolean true)

/-- The operator answers whether its operands compare in an accepted way, and `false` where
they do not compare. -/
def Orders (operator : BinaryOperator) (accepts : Ordering → Bool) : Prop :=
  ∀ left right, operator.apply left right = .ok (.boolean ((order? left right).any accepts))

section

variable {operator converse : BinaryOperator} {accepts conversely : Ordering → Bool}
  {left right : Value}

theorem Orders.holds_iff (orders : operator.Orders accepts) :
    operator.Holds left right ↔
      ∃ order, order? left right = some order ∧ accepts order = true := by
  simp only [Holds, orders left right, Except.ok.injEq, Value.boolean.injEq, Option.any_eq_true]

theorem Orders.apply_swap (orders : operator.Orders accepts)
    (converseOrders : converse.Orders conversely)
    (swaps : ∀ order : Ordering, conversely order.swap = accepts order) :
    converse.apply right left = operator.apply left right := by
  rw [orders, converseOrders, order?_swap left right, Option.any_map]
  simp only [swaps]

end

theorem less_orders : less.Orders (· == .lt) := fun _ _ => rfl

theorem greater_orders : greater.Orders (· == .gt) := fun _ _ => rfl

theorem lessOrEqual_orders : lessOrEqual.Orders (· != .gt) := fun _ _ => rfl

theorem greaterOrEqual_orders : greaterOrEqual.Orders (· != .lt) := fun _ _ => rfl

section

variable {left right : Value}

theorem holds_less : less.Holds left right ↔ order? left right = some .lt := by
  simp [less_orders.holds_iff]

theorem holds_lessOrEqual :
    lessOrEqual.Holds left right ↔
      order? left right = some .lt ∨ order? left right = some .eq := by
  rw [lessOrEqual_orders.holds_iff]
  constructor
  · rintro ⟨order, found, accepted⟩
    cases order with
    | lt => exact .inl found
    | eq => exact .inr found
    | gt => cases accepted
  · rintro (found | found) <;> exact ⟨_, found, rfl⟩

end

/-! ## Strings -/

section

variable {one other third : String}

theorem holds_less_strings :
    less.Holds (.string one) (.string other) ↔ Value.compareStrings one other = .lt :=
  holds_less.trans Option.some_inj

theorem holds_greater_strings :
    greater.Holds (.string one) (.string other) ↔ Value.compareStrings one other = .gt := by
  simp [greater_orders.holds_iff, order?, Value.toPrimitive]

theorem holds_strictEqual_strings :
    strictEqual.Holds (.string one) (.string other) ↔ Value.compareStrings one other = .eq := by
  simp [Value.compareStrings_eq_eq, Holds, apply, Value.strictEquals]

theorem holds_less_strings_trans (first : less.Holds (.string one) (.string other))
    (second : less.Holds (.string other) (.string third)) :
    less.Holds (.string one) (.string third) := by
  rw [holds_less_strings, Value.compareStrings_eq_compare] at *
  exact Std.TransCmp.lt_trans first second

end

/-- One of three statements is true, and the two others are not. -/
def ExactlyOne (first second third : Prop) : Prop :=
  first ∧ ¬second ∧ ¬third ∨ ¬first ∧ second ∧ ¬third ∨ ¬first ∧ ¬second ∧ third

/-- The laws of order. Less and greater are converses, also with equality beside them, and
no two values are less than each other. Strings are ordered totally by their code units,
which is the order of their characters where these all come before the surrogates. -/
theorem ordering_laws (left right : Value) (one other third : String) :
    less.apply left right = greater.apply right left ∧
      lessOrEqual.apply left right = greaterOrEqual.apply right left ∧
      (lessOrEqual.Holds left right ↔
        less.Holds left right ∨ order? left right = some .eq) ∧
      ¬(less.Holds left right ∧ less.Holds right left) ∧
      (less.Holds (.string one) (.string other) ↔ Text.units one < Text.units other) ∧
      (less.Holds (.string one) (.string other) → less.Holds (.string other) (.string third) →
        less.Holds (.string one) (.string third)) ∧
      ExactlyOne (less.Holds (.string one) (.string other))
        (strictEqual.Holds (.string one) (.string other))
        (greater.Holds (.string one) (.string other)) ∧
      ((∀ character ∈ one.toList ++ other.toList, character.toNat < 0xD800) →
        (less.Holds (.string one) (.string other) ↔ one < other)) := by
  have byUnits :
      less.Holds (.string one) (.string other) ↔ Text.units one < Text.units other :=
    holds_less_strings.trans Text.compareUnits_eq_lt
  refine ⟨(less_orders.apply_swap greater_orders ?_).symm,
    (lessOrEqual_orders.apply_swap greaterOrEqual_orders ?_).symm, ?_, ?_, byUnits,
    holds_less_strings_trans, ?_, fun basic => ?_⟩
  · exact fun order => by cases order <;> rfl
  · exact fun order => by cases order <;> rfl
  · rw [holds_lessOrEqual, holds_less]
  · rintro ⟨isLess, isGreater⟩
    rw [holds_less] at isLess isGreater
    rw [order?_swap, isLess] at isGreater
    cases isGreater
  · rw [ExactlyOne, holds_less_strings, holds_strictEqual_strings, holds_greater_strings]
    cases Value.compareStrings one other <;> simp
  · rw [List.forall_mem_append] at basic
    refine byUnits.trans (Text.units_lt_iff ?_ ?_)
    · exact fun character member => Nat.lt_trans (basic.1 character member) (by decide)
    · exact fun character member => Nat.lt_trans (basic.2 character member) (by decide)

/-- Three strings that rise by code units, two of which fall by characters. -/
theorem ordering_laws_of_surrogates :
    less.Holds (.string "ab") (.string "b") ∧ "ab" < "b" ∧
      less.Holds (.string "ab") (.string "\uFFFF") ∧
      less.Holds (.string "😀") (.string "\uFFFF") ∧ "\uFFFF" < "😀" := by
  have below : ∀ character ∈ "ab".toList ++ "b".toList, character.toNat < 0xD800 := by
    intro character member
    have either : character = 'a' ∨ character = 'b' := by simpa using member
    rcases either with rfl | rfl <;> decide
  have basic := (ordering_laws .null .null "ab" "b" "\uFFFF").2.2.2.2
  have rising := (ordering_laws .null .null "ab" "😀" "\uFFFF").2.2.2.2
  have falling := (ordering_laws .null .null "😀" "\uFFFF" "ab").2.2.2.2
  have first : less.Holds (.string "ab") (.string "b") := basic.1.mpr (by decide)
  have second : less.Holds (.string "ab") (.string "😀") := rising.1.mpr (by decide)
  have third : less.Holds (.string "😀") (.string "\uFFFF") := falling.1.mpr (by decide)
  exact ⟨first, (basic.2.2.2 below).mp first, rising.2.1 second third, third, by decide⟩

end BinaryOperator

end PageTemplates
