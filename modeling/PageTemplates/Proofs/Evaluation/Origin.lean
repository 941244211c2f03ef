import Mathlib.Data.List.Forall2
import PageTemplates.Proofs.Evaluation.Plain
import PageTemplates.Proofs.Except
import PageTemplates.Proofs.Json

/-! # Where objects come from

An object in the value of an expression is the value of an object that occurs in the data,
or an object literal of the expression has made it. Neither lists a key twice. A safe
expression names no denied key, so an object that has one comes from the data.
-/

namespace PageTemplates

/-! ## Parts of trees -/

namespace Expr

/-- A tree is a part of the whole: the whole itself, or a child of a part. -/
inductive Part (whole : Expr) : Expr → Prop
  | whole : Part whole whole
  | base {base : Expr} {property : String} : Part whole (.member base property) →
      Part whole base
  | operand {operator : UnaryOperator} {operand : Expr} :
      Part whole (.unary operator operand) → Part whole operand
  | binaryLeft {operator : BinaryOperator} {left right : Expr} :
      Part whole (.binary operator left right) → Part whole left
  | binaryRight {operator : BinaryOperator} {left right : Expr} :
      Part whole (.binary operator left right) → Part whole right
  | logicalLeft {operator : LogicalOperator} {left right : Expr} :
      Part whole (.logical operator left right) → Part whole left
  | logicalRight {operator : LogicalOperator} {left right : Expr} :
      Part whole (.logical operator left right) → Part whole right
  | test {test consequent alternate : Expr} :
      Part whole (.conditional test consequent alternate) → Part whole test
  | consequent {test consequent alternate : Expr} :
      Part whole (.conditional test consequent alternate) → Part whole consequent
  | alternate {test consequent alternate : Expr} :
      Part whole (.conditional test consequent alternate) → Part whole alternate
  | element {element : Expr} {elements : List (Option Expr)} :
      Part whole (.array elements) → some element ∈ elements → Part whole element
  | field {field : String × Expr} {fields : List (String × Expr)} :
      Part whole (.object fields) → field ∈ fields → Part whole field.2

@[simp]
theorem elementsSafe_iff {elements : List (Option Expr)} :
    elementsSafe elements = true ↔ ∀ element, some element ∈ elements → element.isSafe = true := by
  induction elements with
  | nil => simp [elementsSafe]
  | cons element rest induction => cases element <;> simp [elementsSafe, induction]

@[simp]
theorem entriesSafe_iff {fields : List (String × Expr)} :
    entriesSafe fields = true ↔
      ∀ field ∈ fields, isDenied field.1 = false ∧ field.2.isSafe = true := by
  induction fields with
  | nil => simp [entriesSafe]
  | cons field rest induction => simp [entriesSafe, induction]

theorem Part.isSafe {whole tree : Expr} (part : Part whole tree) (safe : whole.isSafe = true) :
    tree.isSafe = true := by
  induction part with
  | whole => exact safe
  | element _ member induction => exact elementsSafe_iff.mp induction _ member
  | field _ member induction => exact (entriesSafe_iff.mp induction _ member).2
  | _ => simp_all [Expr.isSafe]

end Expr

/-! ## Values without objects -/

@[simp]
theorem Literal.isCompound_value (constant : Literal) : constant.value.isCompound = false := by
  cases constant <;> rfl

@[simp]
theorem UnaryOperator.isCompound_apply (operator : UnaryOperator) (operand : Value) :
    (operator.apply operand).isCompound = false := by
  cases operator <;> rfl

theorem BinaryOperator.isCompound_of_apply {operator : BinaryOperator} {left right value : Value}
    (applied : operator.apply left right = .ok value) : value.isCompound = false := by
  cases operator with
  | add =>
      cases applied
      unfold Value.add
      split <;> rfl
  | within =>
      simp only [apply] at applied
      split at applied <;> cases applied
      rfl
  | _ =>
      cases applied
      rfl

namespace Value

/-- A property is no array or object, or it stands in the value. -/
theorem within_of_member {value found : Value} {property : String}
    (read : value.member property = .ok found) :
    found.isCompound = false ∨ Within found value := by
  unfold member at read
  split at read
  next =>
    cases read
    exact .inl rfl
  next =>
    cases value with
    | undefined | null => cases read
    | boolean | number =>
        cases read
        exact .inl rfl
    | string text =>
        cases read
        left
        rw [stringMember]
        split
        · rfl
        · split <;> rfl
    | array items =>
        dsimp only at read
        split at read
        next =>
          cases read
          exact .inl rfl
        next =>
          cases read
          cases stored : (arrayIndex? property).bind (items[·]?) with
          | none => exact .inl rfl
          | some item =>
              rcases Option.bind_eq_some_iff.mp stored with ⟨index, -, stands⟩
              exact .inr (.item (List.mem_of_getElem? stands) (.here _))
    | object entries =>
        cases read
        cases stored : Dictionary.get? entries property with
        | none => exact .inl rfl
        | some value =>
            rcases List.lookup_eq_some_iff.mp stored with ⟨before, after, same, -⟩
            have member : (property, value) ∈ entries := by simp [same]
            exact .inr (.entry member (.here _))

theorem Within.trans {inner middle outer : Value} (first : Within inner middle)
    (second : Within middle outer) : Within inner outer := by
  induction second with
  | here => exact first
  | item member _ induction => exact .item member induction
  | entry member _ induction => exact .entry member induction

theorem not_within_of_plain {entries : List (String × Value)} {value : Value}
    (plain : value.isCompound = false) : ¬Within (.object entries) value := by
  rw [within_of_plain plain]
  rintro rfl
  cases plain

end Value

/-! ## Objects of literals -/

/-- The fields of an object literal have values, one after another, and the object lists each
name where it stands first among the fields, with the value of the field in which it stands
last. -/
def Context.Makes (context : Context) (fields : List (String × Expr))
    (entries : List (String × Value)) : Prop :=
  ∃ evaluated : List (String × Value),
    List.Forall₂ (fun field entry => entry.1 = field.1 ∧
      field.2.evaluateTree context = .ok entry.2) fields evaluated ∧
    Dictionary.Merges evaluated entries

namespace Expr

variable {context : Context}

theorem forall₂_of_plainEntries {fields : List (String × Expr)}
    {evaluated : List (String × Value)} (equal : plainEntries context fields = .ok evaluated) :
    List.Forall₂ (fun field entry => entry.1 = field.1 ∧
      field.2.evaluateTree context = .ok entry.2) fields evaluated := by
  induction fields generalizing evaluated with
  | nil =>
      cases equal
      exact .nil
  | cons field rest induction =>
      rcases exists_of_bind_eq_ok equal with ⟨value, first, next⟩
      rcases exists_of_bind_eq_ok next with ⟨entries, others, same⟩
      cases same
      exact .cons ⟨rfl, (evaluateTree_eq_plain context field.2).trans first⟩ (induction others)

theorem makes_of_evaluateTree {fields : List (String × Expr)} {value : Value}
    (evaluated : (object fields).evaluateTree context = .ok value) :
    ∃ entries, value = .object entries ∧ (Dictionary.keys entries).Nodup ∧
      context.Makes fields entries := by
  rw [evaluateTree_eq_plain, plain] at evaluated
  rcases exists_of_bind_eq_ok evaluated with ⟨entries, values, same⟩
  cases same
  exact ⟨_, rfl, Dictionary.nodup_keys_foldl_put entries, entries,
    forall₂_of_plainEntries values, Dictionary.merges_foldl_put entries⟩

end Expr

theorem Context.Makes.exists_of_mem_keys {context : Context} {fields : List (String × Expr)}
    {entries : List (String × Value)} (makes : context.Makes fields entries) {key : String}
    (member : key ∈ Dictionary.keys entries) : ∃ field ∈ fields, field.1 = key := by
  rcases makes with ⟨evaluated, values, merges⟩
  rw [merges.keys, List.mem_eraseDups] at member
  rcases List.mem_map.mp member with ⟨entry, stands, rfl⟩
  rcases List.forall₂_iff_get.mp values with ⟨sameLength, each⟩
  rcases List.getElem_of_mem stands with ⟨index, bound, rfl⟩
  exact ⟨_, List.get_mem fields ⟨index, sameLength ▸ bound⟩, (each index _ bound).1.symm⟩

/-! ## Origins -/

/-- Where an object comes from that stands in the value of an expression. -/
inductive Context.Origin (context : Context) (whole : Expr) (entries : List (String × Value)) :
    Prop
  | data {stored : List (String × Json)} : context.Holds (.object stored) →
      Value.ofJson (.object stored) = .object entries → Origin context whole entries
  | literal {fields : List (String × Expr)} : whole.Part (.object fields) →
      (Expr.object fields).evaluateTree context = .ok (.object entries) →
      Origin context whole entries

namespace Expr

section

variable {context : Context} {whole : Expr} {entries : List (String × Value)}

theorem origin_of_plainVariable {name : String}
    (within : Value.Within (.object entries) (context.plainVariable name)) :
    context.Origin whole entries := by
  unfold Context.plainVariable at within
  split at within
  · exact absurd within (Value.not_within_of_plain rfl)
  · split at within
    next json found =>
      rcases Value.within_ofJson within with ⟨data, inside, same⟩
      cases data with
      | object stored => exact .data (Context.holds_of_get? found inside) same
      | _ => cases same
    next => exact absurd within (Value.not_within_of_plain rfl)

/-! By recursion on the tree. What an operator makes holds no object; a property, an operand
that decides and a branch that is taken hold the objects of a value that a part has. -/

mutual

theorem origin_of_plain : (tree : Expr) → whole.Part tree → ∀ {value : Value},
    tree.plain context = .ok value → Value.Within (.object entries) value →
      context.Origin whole entries
  | .literal constant, _, _, evaluated, within => by
      cases evaluated
      exact absurd within (Value.not_within_of_plain constant.isCompound_value)
  | .identifier _, _, _, evaluated, within => by
      cases evaluated
      exact origin_of_plainVariable within
  | .member base property, part, _, evaluated, within => by
      rcases exists_of_bind_eq_ok evaluated with ⟨value, first, read⟩
      rcases Value.within_of_member read with plain | found
      · exact absurd within (Value.not_within_of_plain plain)
      · exact origin_of_plain base part.base first (within.trans found)
  | .unary operator operand, _, _, evaluated, within => by
      rcases exists_of_bind_eq_ok evaluated with ⟨value, _, same⟩
      cases same
      exact absurd within (Value.not_within_of_plain (operator.isCompound_apply value))
  | .binary operator left right, _, _, evaluated, within => by
      rcases exists_of_bind_eq_ok evaluated with ⟨leftValue, _, next⟩
      rcases exists_of_bind_eq_ok next with ⟨rightValue, _, applied⟩
      exact absurd within
        (Value.not_within_of_plain (BinaryOperator.isCompound_of_apply applied))
  | .logical operator left right, part, _, evaluated, within => by
      rcases exists_of_bind_eq_ok evaluated with ⟨value, first, next⟩
      split at next
      · cases next
        exact origin_of_plain left part.logicalLeft first within
      · exact origin_of_plain right part.logicalRight next within
  | .conditional test consequent alternate, part, _, evaluated, within => by
      rcases exists_of_bind_eq_ok evaluated with ⟨value, _, next⟩
      split at next
      · exact origin_of_plain consequent part.consequent next within
      · exact origin_of_plain alternate part.alternate next within
  | .array elements, part, _, evaluated, within => by
      rcases exists_of_bind_eq_ok evaluated with ⟨items, all, same⟩
      cases same
      rcases Value.within_array.mp within with same | ⟨item, member, within⟩
      · cases same
      · exact origin_of_plainElements elements part.element all member within
  | .object fields, part, _, evaluated, within => by
      rcases exists_of_bind_eq_ok evaluated with ⟨values, all, same⟩
      cases same
      rcases Value.within_object.mp within with same | ⟨entry, member, within⟩
      · exact .literal part (by rw [evaluateTree_eq_plain, evaluated, same]; rfl)
      · exact origin_of_plainEntries fields part.field all
          (Dictionary.mem_of_mem_foldl_put member) within

theorem origin_of_plainElements : (elements : List (Option Expr)) →
    (∀ {element : Expr}, some element ∈ elements → whole.Part element) →
    ∀ {items : List Value}, plainElements context elements = .ok items →
      ∀ {item : Value}, item ∈ items → Value.Within (.object entries) item →
        context.Origin whole entries
  | [], _, _, evaluated, _, stands, _ => by
      cases evaluated
      cases stands
  | none :: rest, parts, _, evaluated, _, stands, within => by
      rcases exists_of_bind_eq_ok evaluated with ⟨items, others, same⟩
      cases same
      rcases List.mem_cons.mp stands with rfl | later
      · exact absurd within (Value.not_within_of_plain rfl)
      · exact origin_of_plainElements rest (fun later => parts (.tail _ later)) others
          later within
  | some element :: rest, parts, _, evaluated, _, stands, within => by
      rcases exists_of_bind_eq_ok evaluated with ⟨value, first, next⟩
      rcases exists_of_bind_eq_ok next with ⟨items, others, same⟩
      cases same
      rcases List.mem_cons.mp stands with rfl | later
      · exact origin_of_plain element (parts (.head _)) first within
      · exact origin_of_plainElements rest (fun later => parts (.tail _ later)) others
          later within

theorem origin_of_plainEntries : (fields : List (String × Expr)) →
    (∀ {field : String × Expr}, field ∈ fields → whole.Part field.2) →
    ∀ {values : List (String × Value)}, plainEntries context fields = .ok values →
      ∀ {entry : String × Value}, entry ∈ values →
        Value.Within (.object entries) entry.2 → context.Origin whole entries
  | [], _, _, evaluated, _, stands, _ => by
      cases evaluated
      cases stands
  | (key, tree) :: rest, parts, _, evaluated, _, stands, within => by
      rcases exists_of_bind_eq_ok evaluated with ⟨value, first, next⟩
      rcases exists_of_bind_eq_ok next with ⟨values, others, same⟩
      cases same
      rcases List.mem_cons.mp stands with rfl | later
      · exact origin_of_plain tree (parts (.head _)) first within
      · exact origin_of_plainEntries rest (fun later => parts (.tail _ later)) others
          later within

end

end

end Expr

namespace SafeExpr

variable {context : Context} {expression : SafeExpr} {entries : List (String × Value)}

theorem nodup_keys_of_origin (origin : context.Origin expression.tree entries) :
    (Dictionary.keys entries).Nodup := by
  cases origin with
  | data holds same =>
      cases same
      rw [Value.keys_ofEntries]
      exact holds.increases.nodup
  | literal part evaluated =>
      rcases Expr.makes_of_evaluateTree evaluated with ⟨made, same, nodup, -⟩
      cases same
      exact nodup

/-- No literal of a safe expression makes an object with a denied key. -/
theorem exists_data_of_origin (origin : context.Origin expression.tree entries) {key : String}
    (member : key ∈ Dictionary.keys entries) (denied : isDenied key = true) :
    ∃ stored, context.Holds (.object stored) ∧
      Value.ofJson (.object stored) = .object entries := by
  cases origin with
  | data holds same => exact ⟨_, holds, same⟩
  | literal part evaluated =>
      rcases Expr.makes_of_evaluateTree evaluated with ⟨made, same, -, makes⟩
      cases same
      rcases makes.exists_of_mem_keys member with ⟨field, stands, rfl⟩
      have safe := part.isSafe expression.safe
      rw [Expr.isSafe, Expr.entriesSafe_iff] at safe
      rw [(safe field stands).1] at denied
      cases denied

/-- The objects of a value that a safe expression has, at any depth: none lists a key twice;
each occurs in the data or is made by a literal of the expression, and one with a denied key
occurs in the data. What a literal makes has the keys of its fields, each at its first place
with its last value. -/
theorem objects_of_evaluate {value : Value}
    (evaluated : expression.evaluate context = .ok value) :
    value.Distinct ∧
      (∀ fields made, (Expr.object fields).evaluateTree context = .ok made →
        ∃ entries, made = .object entries ∧ context.Makes fields entries) ∧
      ∀ entries, Value.Within (.object entries) value →
        context.Origin expression.tree entries ∧
          ∀ key ∈ Dictionary.keys entries, isDenied key = true →
            ∃ stored, context.Holds (.object stored) ∧
              Value.ofJson (.object stored) = .object entries := by
  have origin {entries : List (String × Value)}
      (within : Value.Within (.object entries) value) :
      context.Origin expression.tree entries := by
    rw [evaluate_eq_plain] at evaluated
    exact Expr.origin_of_plain expression.tree .whole evaluated within
  refine ⟨?_, ?_, ?_⟩
  · exact fun entries within => nodup_keys_of_origin (origin within)
  · intro fields made literal
    rcases Expr.makes_of_evaluateTree literal with ⟨entries, same, -, makes⟩
    exact ⟨entries, same, makes⟩
  · exact fun entries within => ⟨origin within,
      fun key member denied => exists_data_of_origin (origin within) member denied⟩

/-- A key that is written twice is kept once, and stored data keeps a denied key inside an
object that the expression makes. -/
theorem objects_of_evaluate_repeated_key :
    let context := Context.empty.insert "user" ⟨.object [("constructor", .null)], rfl⟩
    let fields : List (String × Expr) := [("1", .identifier "user"), ("b", .literal .null),
      ("1", .array [some (.identifier "user"), none])]
    let value : Value := .object [("1", .array [.object [("constructor", .null)], .undefined]),
      ("b", .null)]
    ∃ safe : (Expr.object fields).isSafe = true,
      SafeExpr.evaluate context ⟨.object fields, safe⟩ = .ok value ∧ value.Distinct ∧
        (∃ entries, value = .object entries ∧ context.Makes fields entries) ∧
        ∃ stored, context.Holds (.object stored) ∧
          Value.ofJson (.object stored) = .object [("constructor", .null)] := by
  intro context fields value
  have evaluated : SafeExpr.evaluate context ⟨.object fields, by decide⟩ = .ok value := by rfl
  rcases objects_of_evaluate evaluated with ⟨distinct, literals, origins⟩
  refine ⟨by decide, evaluated, distinct, literals fields value evaluated, ?_⟩
  refine (origins [("constructor", .null)] ?_).2 "constructor" (by simp) ?_
  · exact .entry (List.mem_cons_self : ("1", _) ∈ _) (.item List.mem_cons_self (.here _))
  · decide

end SafeExpr

end PageTemplates
