import PageTemplates.Proofs.Evaluation.Plain

/-! # Paths and chains

A path of names can be looked up in a context, or evaluated as the chain of a variable
and its properties. Both walk the names from left to right over values; they part where
a step meets a value that counts as false, or one that has no properties.
-/

namespace PageTemplates

/-! ## Chains of properties -/

/-- The tree of a variable and the properties after it. -/
def Expr.chain (first : String) (rest : List String) : Expr :=
  rest.foldl .member (.identifier first)

theorem Expr.isSafe_foldl_member (names : List String)
    (allowed : ∀ name ∈ names, isDenied name = false) (base : Expr)
    (safe : base.isSafe = true) : (names.foldl Expr.member base).isSafe = true := by
  induction names generalizing base with
  | nil => exact safe
  | cons name rest induction =>
      apply induction fun other member => allowed other (List.mem_cons_of_mem _ member)
      simp [isSafe, allowed name List.mem_cons_self, safe]

/-- The chain of names of which none is denied. -/
def SafeExpr.chain (first : String) (rest : List String)
    (allowed : ∀ name ∈ first :: rest, isDenied name = false) : SafeExpr where
  tree := Expr.chain first rest
  safe := by
    apply Expr.isSafe_foldl_member rest fun name member =>
      allowed name (List.mem_cons_of_mem _ member)
    simp [Expr.isSafe, allowed first List.mem_cons_self]

/-- Read a property of what came before, if that is a value. -/
def readStep (result : Except EvaluationError Value) (name : String) :
    Except EvaluationError Value := do
  let value ← result
  value.member name

theorem Expr.plain_foldl_member (context : Context) (names : List String) (base : Expr) :
    (names.foldl Expr.member base).plain context =
      names.foldl readStep (base.plain context) := by
  induction names generalizing base with
  | nil => rfl
  | cons name rest induction =>
      rw [List.foldl_cons, induction, List.foldl_cons]
      rfl

theorem Expr.evaluateTree_chain (context : Context) (first : String)
    (rest : List String) :
    (Expr.chain first rest).evaluateTree context =
      rest.foldl readStep (.ok (context.plainVariable first)) := by
  rw [evaluateTree_eq_plain, chain, plain_foldl_member]
  rfl

/-! ## Lookup step by step

Whether the data stores a step or it has to be derived, the walk is one fold over
values. -/

namespace Context

@[simp]
theorem foldl_derivedStep_undefined (names : List String) :
    names.foldl derivedStep .undefined = .undefined := by
  induction names with
  | nil => rfl
  | cons name rest induction => exact induction

theorem derivedStep_object (entries : List (String × Json)) (name : String)
    (allowed : isDenied name = false) :
    derivedStep (Value.ofJson (.object entries)) name =
      ((Dictionary.get? entries name).map Value.ofJson).getD .undefined := by
  simp [derivedStep, Value.ofJson, Value.isTrue, Value.member, allowed]

theorem derivedStep_array (items : List Json) (name : String)
    (allowed : isDenied name = false) :
    derivedStep (Value.ofJson (.array items)) name =
      if name = "length" then
        Value.ofLength items.length
      else
        (((arrayIndex? name).bind (items[·]?)).map Value.ofJson).getD .undefined := by
  simp only [derivedStep, Value.ofJson, Value.isTrue, Value.member, allowed,
    Value.length_ofItems, Value.bind_getElem?_ofItems]
  by_cases length : name = "length" <;> simp [length]

theorem follow_eq_foldl (names : List String)
    (allowed : ∀ name ∈ names, isDenied name = false) (json : Json) :
    follow json names = names.foldl derivedStep (Value.ofJson json) := by
  induction names generalizing json with
  | nil => rfl
  | cons name rest induction =>
      have nameAllowed := allowed name List.mem_cons_self
      have restEqual := induction fun other member =>
        allowed other (List.mem_cons_of_mem _ member)
      rw [List.foldl_cons]
      cases json with
      | object entries =>
          rw [derivedStep_object entries name nameAllowed]
          cases found : Dictionary.get? entries name with
          | none => simp [follow, storedStep?, found]
          | some json => simp [follow, storedStep?, found, restEqual]
      | array items =>
          rw [derivedStep_array items name nameAllowed]
          by_cases length : name = "length"
          · simp [follow, storedStep?, length]
          · cases found : (arrayIndex? name).bind (items[·]?) with
            | none => simp [follow, storedStep?, found, length]
            | some json => simp [follow, storedStep?, found, length, restEqual]
      | null | boolean | number | string => rfl

theorem lookup_eq_foldl (context : Context) (first : String) (rest : List String)
    (allowed : ∀ name ∈ first :: rest, isDenied name = false) :
    context.lookup (first :: rest) =
      rest.foldl derivedStep (context.plainVariable first) := by
  have noneDenied : (first :: rest).any isDenied = false := by
    simpa using allowed
  have firstAllowed := allowed first List.mem_cons_self
  unfold lookup plainVariable
  simp only [noneDenied, firstAllowed]
  cases context.get? first with
  | none => exact (foldl_derivedStep_undefined rest).symm
  | some json =>
      exact follow_eq_foldl rest
        (fun name member => allowed name (List.mem_cons_of_mem _ member)) json

end Context

/-! ## The two walks side by side -/

/-- What a lookup shows of an evaluation: its value, and `undefined` for an error. -/
def orUndefined : Except EvaluationError Value → Value
  | .ok value => value
  | .error _ => .undefined

/-- The step at which the walks part: the length of the empty string. -/
def IsEmptyLength (evaluated : Except EvaluationError Value) (name : String) : Prop :=
  evaluated = .ok (.string "") ∧ name = "length"

/-- How far the walks agree. Beyond the length of an empty string a lookup has nothing,
where an evaluation has the number 0. -/
def Agrees (evaluated : Except EvaluationError Value) (found : Value) : Prop :=
  found = orUndefined evaluated ∨ (evaluated = .ok (.number 0) ∧ found = .undefined)

namespace IsEmptyLength

theorem readStep_eq {evaluated : Except EvaluationError Value} {name : String}
    (emptyLength : IsEmptyLength evaluated name) :
    readStep evaluated name = .ok (.number 0) := by
  rcases emptyLength with ⟨rfl, rfl⟩
  rfl

theorem derivedStep_eq {evaluated : Except EvaluationError Value} {name : String}
    {found : Value} (emptyLength : IsEmptyLength evaluated name)
    (agrees : Agrees evaluated found) : Context.derivedStep found name = .undefined := by
  rcases emptyLength with ⟨rfl, rfl⟩
  rcases agrees with rfl | ⟨_, rfl⟩ <;> rfl

end IsEmptyLength

/-- A value that counts as false has no property but the length of the empty string. -/
theorem orUndefined_member_of_false (value : Value) (name : String)
    (counts : value.isTrue = false) (other : ¬IsEmptyLength (.ok value) name) :
    orUndefined (value.member name) = .undefined := by
  unfold Value.member
  cases isDenied name with
  | true => rfl
  | false =>
      cases value with
      | undefined | null | boolean | number => rfl
      | array | object => simp [Value.isTrue] at counts
      | string text =>
          have empty : text = "" := by simpa [Value.isTrue] using counts
          subst empty
          have notLength : name ≠ "length" := fun length => other ⟨rfl, length⟩
          simp only [Value.stringMember, notLength]
          cases arrayIndex? name <;> rfl

theorem derivedStep_orUndefined (evaluated : Except EvaluationError Value) (name : String)
    (other : ¬IsEmptyLength evaluated name) :
    Context.derivedStep (orUndefined evaluated) name =
      orUndefined (readStep evaluated name) := by
  cases evaluated with
  | error problem => rfl
  | ok value =>
      change Context.derivedStep value name = orUndefined (value.member name)
      unfold Context.derivedStep
      cases counts : value.isTrue with
      | false => exact (orUndefined_member_of_false value name counts other).symm
      | true => cases value.member name <;> rfl

/-- One step of both walks. Only at the length of the empty string do they part. -/
theorem Agrees.step_eq {evaluated : Except EvaluationError Value} {found : Value}
    (agrees : Agrees evaluated found) (name : String)
    (other : ¬IsEmptyLength evaluated name) :
    Context.derivedStep found name = orUndefined (readStep evaluated name) := by
  rcases agrees with rfl | ⟨rfl, rfl⟩
  · exact derivedStep_orUndefined evaluated name other
  · change Value.undefined = orUndefined (Value.member (.number 0) name)
    unfold Value.member
    cases isDenied name <;> rfl

theorem Agrees.step {evaluated : Except EvaluationError Value} {found : Value}
    (agrees : Agrees evaluated found) (name : String) :
    Agrees (readStep evaluated name) (Context.derivedStep found name) := by
  by_cases emptyLength : IsEmptyLength evaluated name
  · exact .inr ⟨emptyLength.readStep_eq, emptyLength.derivedStep_eq agrees⟩
  · exact .inl (agrees.step_eq name emptyLength)

theorem Agrees.foldl {evaluated : Except EvaluationError Value} {found : Value}
    (agrees : Agrees evaluated found) (names : List String) :
    Agrees (names.foldl readStep evaluated) (names.foldl Context.derivedStep found) := by
  induction names generalizing evaluated found with
  | nil => exact agrees
  | cons name rest induction => exact induction (agrees.step name)

/-! ## Agreement -/

/-- Whether a path ends in the length of what its beginning evaluates to as the empty
string. -/
def Context.EndsInEmptyLength (context : Context) (first : String)
    (rest : List String) : Prop :=
  ∃ before, rest = before ++ ["length"] ∧
    (Expr.chain first before).evaluateTree context = .ok (.string "")

theorem Context.endsInEmptyLength_concat_iff (context : Context) (first : String)
    (before : List String) (last : String) :
    context.EndsInEmptyLength first (before ++ [last]) ↔
      IsEmptyLength ((Expr.chain first before).evaluateTree context) last := by
  constructor
  · rintro ⟨others, equal, empty⟩
    rcases List.append_inj' equal rfl with ⟨rfl, last⟩
    exact ⟨empty, by simpa using last⟩
  · rintro ⟨empty, rfl⟩
    exact ⟨before, rfl, empty⟩

/-- A lookup is an evaluation whose errors read as `undefined`, but for the length of
the empty string. -/
theorem Context.lookup_eq_or_endsInEmptyLength (context : Context) (first : String)
    (rest : List String) (allowed : ∀ name ∈ first :: rest, isDenied name = false) :
    (¬context.EndsInEmptyLength first rest ∧ context.lookup (first :: rest) =
        orUndefined ((Expr.chain first rest).evaluateTree context)) ∨
      (context.EndsInEmptyLength first rest ∧
        (Expr.chain first rest).evaluateTree context = .ok (.number 0) ∧
        context.lookup (first :: rest) = .undefined) := by
  rw [lookup_eq_foldl context first rest allowed, Expr.evaluateTree_chain]
  rcases List.eq_nil_or_concat rest with rfl | ⟨before, last, rfl⟩
  · left
    exact ⟨by simp [EndsInEmptyLength], rfl⟩
  · have begun : Agrees (.ok (context.plainVariable first))
        (context.plainVariable first) := .inl rfl
    have agrees := begun.foldl before
    rw [List.concat_eq_append, endsInEmptyLength_concat_iff, Expr.evaluateTree_chain,
      List.foldl_append, List.foldl_append]
    by_cases emptyLength :
        IsEmptyLength (before.foldl readStep (.ok (context.plainVariable first))) last
    · exact .inr ⟨emptyLength, emptyLength.readStep_eq, emptyLength.derivedStep_eq agrees⟩
    · exact .inl ⟨emptyLength, agrees.step_eq last emptyLength⟩

/-- A path of names of which none is denied is looked up as its chain evaluates. Where
the chain has no value the lookup is `undefined`; a value is found as it is, except for
the length of an empty string, which is 0 in the one and `undefined` in the other. -/
theorem Context.lookup_agrees_with_chain (context : Context) (first : String)
    (rest : List String) (allowed : ∀ name ∈ first :: rest, isDenied name = false) :
    (∀ problem, (SafeExpr.chain first rest allowed).evaluate context = .error problem →
      context.lookup (first :: rest) = .undefined) ∧
    (∀ value, (SafeExpr.chain first rest allowed).evaluate context = .ok value →
      (¬context.EndsInEmptyLength first rest →
        context.lookup (first :: rest) = value) ∧
      (context.EndsInEmptyLength first rest ↔
        value = .number 0 ∧ context.lookup (first :: rest) = .undefined)) := by
  change (∀ problem, (Expr.chain first rest).evaluateTree context = .error problem → _) ∧
    (∀ value, (Expr.chain first rest).evaluateTree context = .ok value → _)
  rcases context.lookup_eq_or_endsInEmptyLength first rest allowed with
    ⟨other, found⟩ | ⟨ends, evaluated, found⟩
  · rw [found]
    refine ⟨fun problem failed => (by rw [failed, orUndefined]), ?_⟩
    intro value evaluated
    rw [evaluated, orUndefined]
    refine ⟨fun _ => rfl, fun ends => absurd ends other, ?_⟩
    rintro ⟨rfl, impossible⟩
    cases impossible
  · rw [evaluated, found]
    refine ⟨fun problem failed => (nomatch failed), ?_⟩
    intro value equal
    cases equal
    exact ⟨fun other => absurd ends other, fun _ => ⟨rfl, rfl⟩, fun _ => ends⟩

theorem Context.lookup_length_of_empty_title :
    (∀ name ∈ ["title", "length"], isDenied name = false) ∧
      Context.EndsInEmptyLength ⟨[("title", .string "")], rfl⟩ "title" ["length"] ∧
      Context.lookup ⟨[("title", .string "")], rfl⟩ ["title", "length"] = .undefined := by
  have allowed : ∀ name ∈ ["title", "length"], isDenied name = false := by
    decide +kernel
  have ends : Context.EndsInEmptyLength ⟨[("title", .string "")], rfl⟩ "title" ["length"] :=
    ⟨[], rfl, rfl⟩
  have agreed := (Context.lookup_agrees_with_chain ⟨[("title", .string "")], rfl⟩ "title"
    ["length"] allowed).2 (.number 0) rfl
  exact ⟨allowed, ends, (agreed.2.mp ends).2⟩

end PageTemplates
