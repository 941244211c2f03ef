import PageTemplates.Expr.Evaluation
import PageTemplates.Proofs.Except

/-! # Stored data and its value

To read a property of stored data and then take the value is to take the value first
and then read the property.
-/

namespace PageTemplates

namespace Value

theorem ofItems_eq_map (items : List Json) : ofItems items = items.map ofJson := by
  induction items with
  | nil => rfl
  | cons item rest induction => simp [ofItems, induction]

@[simp]
theorem length_ofItems (items : List Json) : (ofItems items).length = items.length := by
  simp [ofItems_eq_map]

@[simp]
theorem getElem?_ofItems (items : List Json) (index : Nat) :
    (ofItems items)[index]? = items[index]?.map ofJson := by
  simp [ofItems_eq_map]

@[simp]
theorem get?_ofEntries (entries : List (String × Json)) (key : String) :
    Dictionary.get? (ofEntries entries) key = (Dictionary.get? entries key).map ofJson := by
  induction entries with
  | nil => rfl
  | cons entry rest induction =>
      rcases entry with ⟨name, json⟩
      simp only [Dictionary.get?, ofEntries, List.lookup_cons] at induction ⊢
      cases key == name with
      | true => rfl
      | false => exact induction

theorem bind_getElem?_ofItems (items : List Json) (index? : Option Nat) :
    (index?.bind ((ofItems items)[·]?)) = (index?.bind (items[·]?)).map ofJson := by
  cases index? with
  | none => rfl
  | some index => simp

end Value

namespace Held

theorem value_ofJsonMember (json : Json) (property : String) :
    (ofJsonMember json property).map value = (Value.ofJson json).member property := by
  cases denied : isDenied property with
  | true => simp [ofJsonMember, Value.member, denied, value]
  | false =>
      cases json with
      | object entries =>
          simp only [ofJsonMember, Value.member, Value.ofJson, denied, Value.get?_ofEntries]
          cases Dictionary.get? entries property <;> rfl
      | array items =>
          simp only [ofJsonMember, Value.member, Value.ofJson, denied, Value.length_ofItems,
            Value.bind_getElem?_ofItems]
          by_cases length : property = "length"
          · simp [length, value]
          · simp only [length]
            cases (arrayIndex? property).bind (items[·]?) <;> rfl
      | null => simp [ofJsonMember, Value.member, Value.ofJson, denied]
      | boolean | number | string =>
          simp [ofJsonMember, Value.member, Value.ofJson, denied, value]

/-- Reading a property commutes with taking the value, whether the data is stored or
made. -/
theorem value_member (held : Held) (property : String) :
    (held.member property).map value = held.value.member property := by
  cases held with
  | stored json => exact value_ofJsonMember json property
  | made made =>
      simp only [member, value]
      cases made.member property <;> rfl

end Held

end PageTemplates
