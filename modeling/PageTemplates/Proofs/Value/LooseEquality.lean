import PageTemplates.Proofs.Value.StrictEquality

/-! # Laws of loose equality

Loose equality comes to an answer after two conversions at most. It is symmetric on values
with distinct keys, holds wherever strict equality does, and is no looser than that on two
values of one kind.
-/

namespace PageTemplates.Value

/-! ## Conversions -/

/-- Loose equality with a limit on how many pairs are compared on the way, the two values
themselves included. There is no answer where the limit is reached. -/
def looseEqualsWithin : Nat → Value → Value → Option Bool
  | 0, _, _ => none
  | pairs + 1, left, right =>
      if left.isNothing || right.isNothing then
        some (left.isNothing && right.isNothing)
      else
        match left, right with
        | .boolean truth, other =>
            looseEqualsWithin pairs (.number (boolean truth).toNumber) other
        | other, .boolean truth =>
            looseEqualsWithin pairs (.number (boolean truth).toNumber) other
        | .number amount, .string content => some (amount == (string content).toNumber)
        | .string content, .number amount => some (amount == (string content).toNumber)
        | one, other =>
            if one.isCompound ∧ other.isNumberOrString then
              looseEqualsWithin pairs one.toPrimitive other
            else if other.isCompound ∧ one.isNumberOrString then
              looseEqualsWithin pairs other.toPrimitive one
            else
              some (strictEquals one other)

theorem looseEqualsWithin_of_conversions_lt {left right : Value} {pairs : Nat}
    (enough : left.conversions + right.conversions < pairs) :
    looseEqualsWithin pairs left right = some (looseEquals left right) := by
  -- Along the recursion of loose equality itself: each of its four calls converts a value.
  fun_induction looseEquals left right generalizing pairs <;>
    rcases Nat.exists_eq_add_one_of_ne_zero (Nat.ne_zero_of_lt enough) with ⟨fewer, rfl⟩
  case case2 truth other something induction =>
    simp only [looseEqualsWithin, something]
    exact induction (by simp only [conversions] at enough ⊢; omega)
  case case3 other truth notBoolean something induction =>
    simp only [looseEqualsWithin, something]
    exact induction (by simp only [conversions] at enough ⊢; omega)
  case case6 one other _ _ _ _ compound something induction =>
    have less := conversions_toPrimitive_lt compound.1
    simp only [looseEqualsWithin, something, compound]
    exact induction (by omega)
  case case7 one other _ _ _ _ apart compound something induction =>
    have less := conversions_toPrimitive_lt compound.1
    simp only [looseEqualsWithin, something, apart, compound]
    exact induction (by omega)
  all_goals simp [looseEqualsWithin, *]

theorem conversions_le_one (value : Value) : value.conversions ≤ 1 := by
  cases value <;> simp [conversions]

theorem looseEqualsWithin_three (left right : Value) :
    looseEqualsWithin 3 left right = some (looseEquals left right) := by
  have leftOnce := conversions_le_one left
  have rightOnce := conversions_le_one right
  exact looseEqualsWithin_of_conversions_lt (by omega)

/-! ## The answer in one step -/

/-- Equality of values that are no arrays or objects any more: of texts between two
strings, and else of numbers. -/
def primitiveEquals : Value → Value → Bool
  | .string left, .string right => left == right
  | left, right => left.toNumber == right.toNumber

theorem primitiveEquals_comm (left right : Value) :
    primitiveEquals left right = primitiveEquals right left := by
  cases left with
  | string leftText =>
      cases right with
      | string rightText => exact BEq.comm
      | _ => exact BEq.comm
  | _ => cases right <;> exact BEq.comm

theorem primitiveEquals_booleans (left right : Bool) :
    primitiveEquals (.boolean left) (.boolean right) = (left == right) := by
  cases left <;> cases right <;> decide +kernel

/-- What the conversions of loose equality come to. -/
theorem looseEquals_eq (left right : Value) :
    looseEquals left right =
      if left.isNothing || right.isNothing then left.isNothing && right.isNothing
      else if left.isCompound && right.isCompound then strictEquals left right
      else primitiveEquals left.toPrimitive right.toPrimitive := by
  -- Each pair of kinds has an answer of its own, with no more than two conversions to it.
  cases left <;> cases right <;>
    simp [looseEquals, isNothing, isCompound, isNumberOrString, toPrimitive, toNumber,
      primitiveEquals, strictEquals, BEq.comm]

theorem looseEquals_comm {one other : Value} (oneDistinct : one.Distinct)
    (otherDistinct : other.Distinct) : looseEquals one other = looseEquals other one := by
  rw [looseEquals_eq, looseEquals_eq other, strictEquals_comm oneDistinct otherDistinct,
    primitiveEquals_comm, Bool.or_comm, Bool.and_comm one.isNothing,
    Bool.and_comm one.isCompound]

/-! ## Beside strict equality -/

/-- Two numbers, two strings, two booleans, or two values that are each an array or an
object. -/
inductive Alike : Value → Value → Prop
  | numbers (one other : Float) : Alike (.number one) (.number other)
  | strings (one other : String) : Alike (.string one) (.string other)
  | booleans (one other : Bool) : Alike (.boolean one) (.boolean other)
  | compounds {one other : Value} (first : one.isCompound = true)
      (second : other.isCompound = true) : Alike one other

theorem isNothing_of_isCompound {value : Value} (compound : value.isCompound = true) :
    value.isNothing = false := by
  cases value with
  | array | object => rfl
  | _ => simp [isCompound] at compound

theorem looseEquals_of_alike {one other : Value} (alike : Alike one other) :
    looseEquals one other = strictEquals one other := by
  rw [looseEquals_eq]
  cases alike with
  | numbers one other => rfl
  | strings one other => rfl
  | booleans one other => exact primitiveEquals_booleans one other
  | compounds first second =>
      simp [isNothing_of_isCompound first, isNothing_of_isCompound second, first, second]

theorem nothing_or_alike_of_strictEquals {one other : Value}
    (equal : strictEquals one other = true) :
    one.isNothing = true ∧ other.isNothing = true ∨ Alike one other := by
  cases one <;> cases other <;> simp [strictEquals] at equal
  case undefined.undefined | null.null => exact .inl ⟨rfl, rfl⟩
  case boolean.boolean => exact .inr (.booleans _ _)
  case number.number => exact .inr (.numbers _ _)
  case string.string => exact .inr (.strings _ _)
  case array.array | object.object => exact .inr (.compounds rfl rfl)

theorem looseEquals_of_strictEquals {one other : Value}
    (equal : strictEquals one other = true) : looseEquals one other = true := by
  rcases nothing_or_alike_of_strictEquals equal with ⟨first, second⟩ | alike
  · simp [looseEquals_eq, first, second]
  · rw [looseEquals_of_alike alike, equal]

/-! ## All laws -/

/-- The laws of both equalities. Strict equality is symmetric, transitive and blind to the
order of keys, and only a value that holds NaN differs from itself. Loose equality answers
within three comparisons and is symmetric. It follows from strict equality, and is the same
on two values of one kind. -/
theorem equality_laws (one other third : Value) (oneDistinct : one.Distinct)
    (otherDistinct : other.Distinct) :
    strictEquals one other = strictEquals other one ∧
      (strictEquals one other = true → strictEquals other third = true →
        strictEquals one third = true) ∧
      (∀ again, Reordered one again →
        strictEquals again other = strictEquals one other ∧
          strictEquals other again = strictEquals other one) ∧
      (strictEquals one one = true ↔ ¬one.HoldsNaN) ∧
      looseEqualsWithin 3 one other = some (looseEquals one other) ∧
      looseEquals one other = looseEquals other one ∧
      (strictEquals one other = true → looseEquals one other = true) ∧
      (Alike one other → looseEquals one other = strictEquals one other) := by
  refine ⟨strictEquals_comm oneDistinct otherDistinct, strictEquals_trans, ?_,
    ⟨not_holdsNaN_of_strictEquals, strictEquals_self⟩, looseEqualsWithin_three one other,
    looseEquals_comm oneDistinct otherDistinct, looseEquals_of_strictEquals,
    looseEquals_of_alike⟩
  intro again reordered
  have same := reordered.interchangeable other
  exact ⟨same.1.symm, same.2.symm⟩

/-- An object in an array in an object. -/
def post : Value :=
  .object [("size", .number 2),
    ("tags", .array [.object [("name", .string "a"), ("note", .null)]])]

/-- The same with both objects listed in the other order. -/
def relistedPost : Value :=
  .object [("tags", .array [.object [("note", .null), ("name", .string "a")]]),
    ("size", .number 2)]

theorem equality_laws_relisted :
    post.Distinct ∧ relistedPost.Distinct ∧ Reordered post relistedPost ∧
      strictEquals post relistedPost = true ∧ strictEquals relistedPost post = true ∧
      looseEquals relistedPost post = true := by
  have size : (number 2).Distinct := distinct_of_plain rfl
  have name : (string "a").Distinct := distinct_of_plain rfl
  have note : null.Distinct := distinct_of_plain rfl
  have distinct : post.Distinct := by
    simp [post, size, name, note]
  have relistedDistinct : relistedPost.Distinct := by
    simp [relistedPost, size, name, note]
  have tag : Reordered (.object [("name", .string "a"), ("note", .null)])
      (.object [("note", .null), ("name", .string "a")]) := .entries (.swap ..)
  have reordered : Reordered post relistedPost :=
    .trans (.entry [("size", .number 2)] [] "tags" (.item [] [] tag)) (.entries (.swap ..))
  rcases equality_laws post post post distinct distinct with ⟨-, -, order, -⟩
  rcases equality_laws relistedPost post post relistedDistinct distinct with
    ⟨symmetric, -, -, -, -, -, loose, -⟩
  have itself : strictEquals post post = true := by decide +kernel
  have equal : strictEquals relistedPost post = true :=
    (order relistedPost reordered).1.trans itself
  exact ⟨distinct, relistedDistinct, reordered, symmetric ▸ equal, equal, loose equal⟩

end PageTemplates.Value
