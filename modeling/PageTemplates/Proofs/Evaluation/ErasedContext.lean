import PageTemplates.Proofs.Evaluation.Erasure
import PageTemplates.View.Target

/-! # Reading an erased context

A safe expression without equalities evaluates in the erasure of a context to the erasure
of its value, and every path is looked up there to the erasure of what it finds.
-/

namespace PageTemplates

open Value (eraseItems eraseEntries)

/-! ## Variables and paths -/

theorem Context.plainVariable_eq_member (context : Context) (name : String) :
    .ok (context.plainVariable name) =
      (Value.ofJson (.object context.entries)).member name := by
  unfold plainVariable Value.member
  cases isDenied name with
  | true => rfl
  | false =>
      simp only [Value.ofJson, Value.get?_ofEntries, Context.get?]
      cases Dictionary.get? context.entries name <;> rfl

@[simp]
theorem Context.plainVariable_erase (context : Context) (name : String) :
    context.erase.plainVariable name = (context.plainVariable name).erase := by
  have erased := Value.member_erase (Value.ofJson (.object context.entries)) name
  rw [← Value.ofJson_erase, ← context.plainVariable_eq_member] at erased
  have read := context.erase.plainVariable_eq_member name
  exact Except.ok.inj (read.trans erased)

@[simp]
theorem Context.derivedStep_erase (value : Value) (name : String) :
    derivedStep value.erase name = (derivedStep value name).erase := by
  simp only [derivedStep, Value.isTrue_erase, Value.member_erase]
  cases value.isTrue with
  | false => rfl
  | true => cases value.member name <;> rfl

@[simp]
theorem Context.foldl_derivedStep_erase (names : List String) (value : Value) :
    names.foldl derivedStep value.erase = (names.foldl derivedStep value).erase := by
  induction names generalizing value with
  | nil => rfl
  | cons name rest induction => simp [induction]

@[simp]
theorem Context.lookup_erase (context : Context) (path : List String) :
    context.erase.lookup path = (context.lookup path).erase := by
  cases denied : path.any isDenied with
  | true => simp [lookup, denied, Value.erase]
  | false =>
      cases path with
      | nil => rfl
      | cons first rest =>
          have allowed : ∀ name ∈ first :: rest, isDenied name = false := by
            simpa using denied
          simp [lookup_eq_foldl _ first rest allowed]

/-- A target names the same view: a name is a string, and no string is erased. -/
@[simp]
theorem IncludeTarget.resolve_erase (target : IncludeTarget) (context : Context) :
    target.resolve context.erase = target.resolve context := by
  simp only [resolve, Context.lookupDotted, Context.lookup_erase]
  cases context.lookup (Context.namesOf target.text) <;> rfl

/-! ## Expressions without equalities -/

@[simp]
theorem Literal.erase_value (constant : Literal) : constant.value.erase = constant.value := by
  cases constant <;> rfl

namespace Expr

mutual

/-- Whether an operator of the tree is an equality. -/
def usesEquality : Expr → Bool
  | .literal _ | .identifier _ => false
  | .member base _ => base.usesEquality
  | .unary _ operand => operand.usesEquality
  | .binary operator left right =>
      operator.isEquality || left.usesEquality || right.usesEquality
  | .logical _ left right => left.usesEquality || right.usesEquality
  | .conditional test consequent alternate =>
      test.usesEquality || consequent.usesEquality || alternate.usesEquality
  | .array elements => elementsUseEquality elements
  | .object entries => entriesUseEquality entries

def elementsUseEquality : List (Option Expr) → Bool
  | [] => false
  | none :: rest => elementsUseEquality rest
  | some element :: rest => element.usesEquality || elementsUseEquality rest

def entriesUseEquality : List (String × Expr) → Bool
  | [] => false
  | (_, value) :: rest => value.usesEquality || entriesUseEquality rest

end

/-! By recursion on the tree. What the parts come to is erased by assumption; each case
is left with an operation of values, which takes erasures to the erasure. -/

mutual

theorem plain_erase (context : Context) : (tree : Expr) → tree.isSafe = true →
    tree.usesEquality = false →
    tree.plain context.erase = (tree.plain context).map Value.erase
  | .literal constant, _, _ => congrArg Except.ok constant.erase_value.symm
  | .identifier name, _, _ => congrArg Except.ok (context.plainVariable_erase name)
  | .member base property, safe, free => by
      simp only [isSafe, Bool.and_eq_true] at safe
      have equal := plain_erase context base safe.2 free
      simp only [plain, equal]
      cases plain context base with
      | error problem => rfl
      | ok value => exact value.member_erase property
  | .unary operator operand, safe, free => by
      have equal := plain_erase context operand safe free
      simp only [plain, equal]
      cases plain context operand with
      | error problem => rfl
      | ok value => exact congrArg Except.ok (operator.apply_erase value)
  | .binary operator left right, safe, free => by
      simp only [isSafe, Bool.and_eq_true] at safe
      simp only [usesEquality, Bool.or_eq_false_iff] at free
      have leftEqual := plain_erase context left safe.1 free.1.2
      have rightEqual := plain_erase context right safe.2 free.2
      simp only [plain, leftEqual, rightEqual]
      cases plain context left with
      | error problem => rfl
      | ok leftValue =>
          cases plain context right with
          | error problem => rfl
          | ok rightValue => exact operator.apply_erase leftValue rightValue free.1.1
  | .logical operator left right, safe, free => by
      simp only [isSafe, Bool.and_eq_true] at safe
      simp only [usesEquality, Bool.or_eq_false_iff] at free
      have leftEqual := plain_erase context left safe.1 free.1
      have rightEqual := plain_erase context right safe.2 free.2
      simp only [plain, leftEqual, rightEqual]
      cases plain context left with
      | error problem => rfl
      | ok value => cases stops : operator.stopsAt value <;> simp [stops, pure, Except.pure]
  | .conditional test consequent alternate, safe, free => by
      simp only [isSafe, Bool.and_eq_true] at safe
      simp only [usesEquality, Bool.or_eq_false_iff] at free
      have testEqual := plain_erase context test safe.1.1 free.1.1
      have consequentEqual := plain_erase context consequent safe.1.2 free.1.2
      have alternateEqual := plain_erase context alternate safe.2 free.2
      simp only [plain, testEqual, consequentEqual, alternateEqual]
      cases plain context test with
      | error problem => rfl
      | ok value => cases decided : value.isTrue <;> simp [decided]
  | .array elements, safe, free => by
      simp only [plain, plainElements_erase context elements safe free]
      cases plainElements context elements <;> rfl
  | .object entries, safe, free => by
      simp only [plain, plainEntries_erase context entries safe free]
      cases plainEntries context entries with
      | error problem => rfl
      | ok values => exact congrArg Except.ok (Value.erase_ofEvaluated values).symm

theorem plainElements_erase (context : Context) :
    (elements : List (Option Expr)) → elementsSafe elements = true →
      elementsUseEquality elements = false →
      plainElements context.erase elements =
        (plainElements context elements).map eraseItems
  | [], _, _ => rfl
  | none :: rest, safe, free => by
      simp only [plainElements, plainElements_erase context rest safe free]
      cases plainElements context rest <;> rfl
  | some element :: rest, safe, free => by
      simp only [elementsSafe, Bool.and_eq_true] at safe
      simp only [elementsUseEquality, Bool.or_eq_false_iff] at free
      simp only [plainElements, plain_erase context element safe.1 free.1,
        plainElements_erase context rest safe.2 free.2]
      cases plain context element with
      | error problem => rfl
      | ok value => cases plainElements context rest <;> rfl

/-- The keys of a safe tree are allowed, so no entry that it makes is erased. -/
theorem plainEntries_erase (context : Context) :
    (entries : List (String × Expr)) → entriesSafe entries = true →
      entriesUseEquality entries = false →
      plainEntries context.erase entries =
        (plainEntries context entries).map eraseEntries
  | [], _, _ => rfl
  | (key, tree) :: rest, safe, free => by
      simp only [entriesSafe, Bool.and_eq_true, Bool.not_eq_true'] at safe
      simp only [entriesUseEquality, Bool.or_eq_false_iff] at free
      simp only [plainEntries, plain_erase context tree safe.1.2 free.1,
        plainEntries_erase context rest safe.2 free.2]
      cases plain context tree with
      | error problem => rfl
      | ok value =>
          cases plainEntries context rest with
          | error problem => rfl
          | ok values =>
              simp [eraseEntries, safe.1.1, pure, Except.pure]

end

end Expr

theorem SafeExpr.evaluate_erase (context : Context) (expression : SafeExpr)
    (free : expression.tree.usesEquality = false) :
    expression.evaluate context.erase = (expression.evaluate context).map Value.erase := by
  simp only [SafeExpr.evaluate, Expr.evaluateTree_eq_plain]
  exact Expr.plain_erase context expression.tree expression.safe free

end PageTemplates
