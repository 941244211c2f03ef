import PageTemplates.Proofs.Evaluation.Chain

/-! # Data without what denied names hold

The erasure of data drops every entry whose key is denied, at every depth. Only an
equality can tell data from its erasure. Whatever else is asked of an erasure is answered
by the erasure of the answer, and of texts, numbers and truths nothing is erased.
-/

namespace PageTemplates

/-! ## Erasures -/

namespace Json

mutual

def erase : Json → Json
  | .array items => .array (eraseItems items)
  | .object entries => .object (eraseEntries entries)
  | scalar => scalar

def eraseItems : List Json → List Json
  | [] => []
  | item :: rest => item.erase :: eraseItems rest

def eraseEntries : List (String × Json) → List (String × Json)
  | [] => []
  | (key, json) :: rest =>
      if isDenied key then eraseEntries rest else (key, json.erase) :: eraseEntries rest

end

theorem keys_eraseEntries (entries : List (String × Json)) :
    Dictionary.keys (eraseEntries entries) =
      (Dictionary.keys entries).filter fun key => !isDenied key := by
  induction entries with
  | nil => rfl
  | cons entry rest induction =>
      cases denied : isDenied entry.1 <;>
        simpa [eraseEntries, Dictionary.keys, denied] using induction

mutual

theorem isOrdered_erase : (json : Json) → json.isOrdered = true → json.erase.isOrdered = true
  | .null, _ | .boolean _, _ | .number _, _ | .string _, _ => rfl
  | .array items, ordered =>
      isOrdered_array.mpr (isOrdered_eraseItems items (isOrdered_array.mp ordered))
  | .object entries, ordered => by
      have parts := isOrdered_object.mp ordered
      refine isOrdered_object.mpr ⟨?_, isOrdered_eraseEntries entries parts.2⟩
      rw [Dictionary.Increases, keys_eraseEntries]
      exact parts.1.filter _

theorem isOrdered_eraseItems : (items : List Json) → (∀ item ∈ items, item.isOrdered = true) →
    ∀ item ∈ eraseItems items, item.isOrdered = true
  | [], _ => nofun
  | item :: rest, all =>
      have parts := List.forall_mem_cons.mp all
      List.forall_mem_cons.mpr ⟨isOrdered_erase item parts.1, isOrdered_eraseItems rest parts.2⟩

theorem isOrdered_eraseEntries :
    (entries : List (String × Json)) → (∀ entry ∈ entries, entry.2.isOrdered = true) →
      ∀ entry ∈ eraseEntries entries, entry.2.isOrdered = true
  | [], _ => nofun
  | (key, json) :: rest, all => by
      have parts := List.forall_mem_cons.mp all
      rw [eraseEntries]
      split
      next => exact isOrdered_eraseEntries rest parts.2
      next =>
        exact List.forall_mem_cons.mpr
          ⟨isOrdered_erase json parts.1, isOrdered_eraseEntries rest parts.2⟩

end

end Json

/-- The context without the entries of denied names, at the top and in what it holds. -/
def Context.erase (context : Context) : Context where
  entries := Json.eraseEntries context.entries
  ordered := Json.isOrdered_erase (.object context.entries) context.ordered

namespace Value

mutual

def erase : Value → Value
  | .array items => .array (eraseItems items)
  | .object entries => .object (eraseEntries entries)
  | scalar => scalar

def eraseItems : List Value → List Value
  | [] => []
  | item :: rest => item.erase :: eraseItems rest

def eraseEntries : List (String × Value) → List (String × Value)
  | [] => []
  | (key, value) :: rest =>
      if isDenied key then eraseEntries rest else (key, value.erase) :: eraseEntries rest

end

example : (object [("a", .array [.object [("constructor", .null)]]), ("this", .null)]).erase =
    object [("a", .array [.object []])] := rfl

mutual

theorem erase_erase : (value : Value) → value.erase.erase = value.erase
  | .undefined | .null | .boolean _ | .number _ | .string _ => rfl
  | .array items => congrArg array (eraseItems_eraseItems items)
  | .object entries => congrArg object (eraseEntries_eraseEntries entries)

theorem eraseItems_eraseItems :
    (items : List Value) → eraseItems (eraseItems items) = eraseItems items
  | [] => rfl
  | item :: rest => by
      simp only [eraseItems, erase_erase item, eraseItems_eraseItems rest]

theorem eraseEntries_eraseEntries :
    (entries : List (String × Value)) →
      eraseEntries (eraseEntries entries) = eraseEntries entries
  | [] => rfl
  | (key, value) :: rest => by
      cases denied : isDenied key with
      | true => simp [eraseEntries, denied, eraseEntries_eraseEntries rest]
      | false =>
          simp [eraseEntries, denied, erase_erase value, eraseEntries_eraseEntries rest]

end

/-! ## From JSON -/

mutual

theorem ofJson_erase : (json : Json) → ofJson json.erase = (ofJson json).erase
  | .null | .boolean _ | .number _ | .string _ => rfl
  | .array items => congrArg array (ofItems_eraseItems items)
  | .object entries => congrArg object (ofEntries_eraseEntries entries)

theorem ofItems_eraseItems :
    (items : List Json) → ofItems (Json.eraseItems items) = eraseItems (ofItems items)
  | [] => rfl
  | item :: rest => by
      simp only [Json.eraseItems, ofItems, eraseItems, ofJson_erase item,
        ofItems_eraseItems rest]

theorem ofEntries_eraseEntries :
    (entries : List (String × Json)) →
      ofEntries (Json.eraseEntries entries) = eraseEntries (ofEntries entries)
  | [] => rfl
  | (key, json) :: rest => by
      cases denied : isDenied key with
      | true =>
          simp [Json.eraseEntries, ofEntries, eraseEntries, denied,
            ofEntries_eraseEntries rest]
      | false =>
          simp [Json.eraseEntries, ofEntries, eraseEntries, denied, ofJson_erase json,
            ofEntries_eraseEntries rest]

end

/-! ## Conversions

Of an object only the kind is ever told, and of an array the items in order. -/

@[simp]
theorem isNothing_erase (value : Value) : value.erase.isNothing = value.isNothing := by
  cases value <;> rfl

@[simp]
theorem isTrue_erase (value : Value) : value.erase.isTrue = value.isTrue := by
  cases value <;> rfl

@[simp]
theorem typeName_erase (value : Value) : value.erase.typeName = value.typeName := by
  cases value <;> rfl

mutual

@[simp]
theorem text_erase : (value : Value) → value.erase.text = value.text
  | .undefined | .null | .boolean _ | .number _ | .string _ | .object _ => rfl
  | .array items => congrArg (",".intercalate ·) (itemTexts_eraseItems items)

theorem itemTexts_eraseItems :
    (items : List Value) → itemTexts (eraseItems items) = itemTexts items
  | [] => rfl
  | item :: rest => by
      simp [eraseItems, itemTexts, text_erase item, itemTexts_eraseItems rest]

end

@[simp]
theorem shown?_erase (value : Value) : value.erase.shown? = value.shown? := by
  simp [shown?]

@[simp]
theorem toNumber_erase (value : Value) : value.erase.toNumber = value.toNumber := by
  cases value with
  | array items => exact congrArg Number.ofText (text_erase (.array items))
  | undefined | null | boolean | number | string | object => rfl

@[simp]
theorem toPrimitive_erase (value : Value) : value.erase.toPrimitive = value.toPrimitive := by
  cases value with
  | array items => exact congrArg string (text_erase (.array items))
  | undefined | null | boolean | number | string | object => rfl

@[simp]
theorem order?_erase (left right : Value) :
    order? left.erase right.erase = order? left right := by
  simp [order?]

@[simp]
theorem add_erase (left right : Value) : add left.erase right.erase = add left right := by
  simp [add]

/-! ## Properties -/

theorem eraseItems_eq_map (items : List Value) : eraseItems items = items.map erase := by
  induction items with
  | nil => rfl
  | cons item rest induction => simp [eraseItems, induction]

theorem get?_eraseEntries (entries : List (String × Value)) (key : String)
    (allowed : isDenied key = false) :
    Dictionary.get? (eraseEntries entries) key = (Dictionary.get? entries key).map erase := by
  induction entries with
  | nil => rfl
  | cons entry rest induction =>
      rcases entry with ⟨name, value⟩
      simp only [Dictionary.get?, List.lookup_cons] at induction ⊢
      cases same : key == name with
      | true =>
          rw [← eq_of_beq same]
          simp [eraseEntries, allowed]
      | false =>
          cases denied : isDenied name with
          | true => simpa [eraseEntries, denied] using induction
          | false => simpa [eraseEntries, denied, List.lookup_cons, same] using induction

theorem has_eraseEntries (entries : List (String × Value)) (key : String)
    (allowed : isDenied key = false) :
    Dictionary.has (eraseEntries entries) key = Dictionary.has entries key := by
  induction entries with
  | nil => rfl
  | cons entry rest induction =>
      rcases entry with ⟨name, value⟩
      simp only [Dictionary.has] at induction
      cases denied : isDenied name with
      | false => simp [Dictionary.has, eraseEntries, denied, induction]
      | true =>
          have other : name ≠ key := by
            rintro rfl
            rw [allowed] at denied
            cases denied
          simp [Dictionary.has, eraseEntries, denied, induction, other]

@[simp]
theorem erase_stringMember (content property : String) :
    (stringMember content property).erase = stringMember content property := by
  simp only [stringMember]
  split
  · rfl
  · split <;> rfl

@[simp]
theorem member_erase (value : Value) (property : String) :
    value.erase.member property = (value.member property).map erase := by
  cases denied : isDenied property with
  | true => simp [member, denied, erase]
  | false =>
      cases value with
      | object entries =>
          simp only [member, erase, denied, get?_eraseEntries entries property denied]
          cases Dictionary.get? entries property <;> rfl
      | array items =>
          simp only [member, erase, denied, eraseItems_eq_map, List.length_map]
          by_cases length : property = "length"
          · simp [length, ofLength, erase]
          · simp only [length, List.getElem?_map]
            cases arrayIndex? property with
            | none => rfl
            | some index =>
                rw [Option.bind_some, Option.bind_some]
                cases items[index]? <;> rfl
      | string content =>
          simp [member, erase, denied]
      | undefined | null | boolean | number => simp [member, erase, denied]

@[simp]
theorem hasOwn?_erase (value : Value) (key : String) :
    value.erase.hasOwn? key = value.hasOwn? key := by
  cases value with
  | object entries =>
      simp only [hasOwn?, erase]
      cases denied : isDenied key with
      | true => rfl
      | false => rw [has_eraseEntries entries key denied]
  | array items => simp only [hasOwn?, erase, eraseItems_eq_map, List.length_map]
  | undefined | null | boolean | number | string => rfl

/-! ## New objects -/

theorem eraseEntries_put (key : String) (value : Value) (entries : List (String × Value)) :
    eraseEntries (Dictionary.put key value entries) =
      if isDenied key then eraseEntries entries
      else Dictionary.put key value.erase (eraseEntries entries) := by
  induction entries with
  | nil => cases denied : isDenied key <;> simp [Dictionary.put, eraseEntries, denied]
  | cons entry rest induction =>
      rcases entry with ⟨name, kept⟩
      simp only [Dictionary.put]
      by_cases same : name = key
      · subst same
        cases denied : isDenied name <;> simp [Dictionary.put, eraseEntries, denied]
      · cases denied : isDenied name with
        | true => simp [eraseEntries, denied, same, induction]
        | false =>
            cases keyDenied : isDenied key <;>
              simp [Dictionary.put, eraseEntries, denied, keyDenied, same, induction]

theorem eraseEntries_foldl_put (entries object : List (String × Value)) :
    eraseEntries (entries.foldl (fun object entry => Dictionary.put entry.1 entry.2 object)
        object) =
      (eraseEntries entries).foldl
        (fun object entry => Dictionary.put entry.1 entry.2 object) (eraseEntries object) := by
  induction entries generalizing object with
  | nil => rfl
  | cons entry rest induction =>
      rcases entry with ⟨key, value⟩
      rw [List.foldl_cons, induction, eraseEntries_put]
      cases denied : isDenied key <;> simp [eraseEntries, denied]

theorem erase_ofEvaluated (entries : List (String × Value)) :
    (ofEvaluated entries).erase = ofEvaluated (eraseEntries entries) :=
  congrArg object (eraseEntries_foldl_put entries [])

end Value

/-! ## Operators -/

/-- Whether the operator compares what objects hold. -/
def BinaryOperator.isEquality : BinaryOperator → Bool
  | .looseEqual | .looseUnequal | .strictEqual | .strictUnequal => true
  | _ => false

@[simp]
theorem UnaryOperator.apply_erase (operator : UnaryOperator) (operand : Value) :
    operator.apply operand.erase = (operator.apply operand).erase := by
  cases operator <;> simp [apply, Value.erase]

@[simp]
theorem Value.erase_add (left right : Value) : (add left right).erase = add left right := by
  unfold add
  split <;> rfl

theorem BinaryOperator.apply_erase (operator : BinaryOperator) (left right : Value)
    (other : operator.isEquality = false) :
    operator.apply left.erase right.erase = (operator.apply left right).map Value.erase := by
  cases operator with
  | looseEqual | looseUnequal | strictEqual | strictUnequal => cases other
  | add => simp [apply]
  | within => cases found : right.hasOwn? left.text <;> simp [apply, found, Value.erase]
  | less | greater | lessOrEqual | greaterOrEqual => simp [apply, Value.erase]
  | power | multiply | divide | remainder | subtract | shiftLeft | shiftRight
  | shiftRightZero | bitAnd | bitXor | bitOr =>
      simp [apply, Value.erase]

@[simp]
theorem LogicalOperator.stopsAt_erase (operator : LogicalOperator) (left : Value) :
    operator.stopsAt left.erase = operator.stopsAt left := by
  cases operator <;> simp [stopsAt]

end PageTemplates
