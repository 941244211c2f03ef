import Mathlib.Data.List.Basic
import PageTemplates.Proofs.Dictionary
import PageTemplates.Value.Operation

/-! # Own properties

Whether a value has a property and what reading it yields are two accounts of the same. An
object has its entries, those of denied names apart; an array has its length and its items,
each under one name only, the decimal text of its position.
-/

namespace PageTemplates

/-! ## Decimal digits -/

namespace Number

theorem digitValue?_of_isDigit {character : Char} (digit : character.isDigit = true) :
    digitValue? 10 character = some (character.toNat - '0'.toNat) ∧
      character.toNat - '0'.toNat < 10 := by
  have small : character.toNat - '0'.toNat < 10 := by
    have bounds := Char.isDigit_iff_toNat.mp digit
    simp only [Char.reduceToNat] at bounds ⊢
    omega
  exact ⟨by rw [digitValue?, if_pos digit, Option.filter_some, if_pos (by simpa using small)],
    small⟩

theorem digitChar_of_isDigit {character : Char} (digit : character.isDigit = true) :
    Nat.digitChar (character.toNat - '0'.toNat) = character := by
  have bounds := Char.isDigit_iff_toNat.mp digit
  rw [← Char.toNat_inj, Nat.toNat_digitChar_of_lt_ten (digitValue?_of_isDigit digit).2]
  simp only [Char.reduceToNat] at bounds ⊢
  omega

theorem ofDigits_toDigits (number : Nat) : ofDigits 10 (Nat.toDigits 10 number) = number := by
  have all : ∀ character ∈ Nat.toDigits 10 number, character.isDigit = true :=
    fun character => Nat.isDigit_of_mem_toDigits (by decide) (by decide)
  have same : ofDigits 10 (Nat.toDigits 10 number) =
      Nat.ofDigitChars 10 (Nat.toDigits 10 number) 0 := by
    rw [ofDigits, Nat.ofDigitChars_eq_foldl]
    refine List.foldl_ext _ _ _ fun total character member => ?_
    rw [(digitValue?_of_isDigit (all character member)).1, Nat.mul_comm]
    rfl
  rw [same, Nat.ofDigitChars_toDigits (by decide) (by decide)]

theorem toDigits_foldl {digits : List Char} (all : ∀ digit ∈ digits, digit.isDigit = true)
    {total : Nat} (positive : 0 < total) :
    Nat.toDigits 10 (digits.foldl
        (fun total digit => total * 10 + (digitValue? 10 digit).getD 0) total) =
      Nat.toDigits 10 total ++ digits := by
  induction digits generalizing total with
  | nil => simp
  | cons digit rest induction =>
      rcases List.forall_mem_cons.mp all with ⟨isDigit, others⟩
      rcases digitValue?_of_isDigit isDigit with ⟨value, small⟩
      rw [List.foldl_cons, value, Option.getD_some, induction others (by omega), Nat.mul_comm,
        ← Nat.toDigits_append_toDigits (by decide) positive small,
        Nat.toDigits_of_lt_base small, digitChar_of_isDigit isDigit, List.append_assoc,
        List.singleton_append]

theorem toDigits_ofDigits {first : Char} {rest : List Char}
    (all : ∀ digit ∈ first :: rest, digit.isDigit = true) (nonzero : first ≠ '0') :
    Nat.toDigits 10 (ofDigits 10 (first :: rest)) = first :: rest := by
  rcases List.forall_mem_cons.mp all with ⟨isDigit, others⟩
  rcases digitValue?_of_isDigit isDigit with ⟨value, small⟩
  have positive : 0 < first.toNat - '0'.toNat := by
    have bounds := Char.isDigit_iff_toNat.mp isDigit
    have other := Char.toNat_inj.not.mpr nonzero
    omega
  rw [ofDigits, List.foldl_cons, Nat.zero_mul, Nat.zero_add, value, Option.getD_some,
    toDigits_foldl others positive, Nat.toDigits_of_lt_base small, digitChar_of_isDigit isDigit,
    List.singleton_append]

theorem head?_toDigits_ne_zero {number : Nat} (positive : 0 < number) :
    (Nat.toDigits 10 number).head? ≠ some '0' := by
  induction number using Nat.strongRecOn with
  | ind number induction =>
      by_cases small : number < 10
      · rw [Nat.toDigits_of_lt_base small, List.head?_singleton, Ne, Option.some.injEq,
          ← Char.toNat_inj, Nat.toNat_digitChar_of_lt_ten small]
        simp only [Char.reduceToNat]
        omega
      · have shorter := induction (number / 10) (by omega) (by omega)
        rw [Nat.toDigits_of_base_le (by decide) (by omega), List.head?_append]
        cases first : (Nat.toDigits 10 (number / 10)).head? with
        | none => exact absurd (List.head?_eq_none_iff.mp first) Nat.toDigits_ne_nil
        | some digit => rwa [first] at shorter

end Number

/-! ## Positions in arrays -/

theorem toList_toString (number : Nat) : (toString number).toList = Nat.toDigits 10 number := by
  rw [Nat.toString_eq_repr, Nat.repr_eq_ofList_toDigits, String.toList_ofList]

/-- A name stands for a position exactly if it is its decimal text, and the position fits 64
bits. -/
theorem arrayIndex?_eq_some_iff {name : String} {index : Nat} :
    arrayIndex? name = some index ↔ name = toString index ∧ index < UInt64.size := by
  rw [← String.toList_inj, toList_toString, arrayIndex?]
  constructor
  · intro found
    split at found
    next => cases found
    next canonical =>
      split at found
      next => cases found
      next digits =>
        rw [Option.ite_none_right_eq_some, Option.some.injEq] at found
        rcases found with ⟨small, rfl⟩
        refine ⟨?_, small⟩
        simp only [Bool.not_eq_true', Bool.not_eq_false, List.all_eq_true] at digits
        generalize name.toList = characters at canonical digits ⊢
        cases characters with
        | nil => simp at canonical
        | cons first rest =>
            by_cases zero : first = '0'
            · have alone : rest = [] := by simpa [zero, List.length_pos_iff] using canonical
              rw [zero, alone]
              decide
            · exact (Number.toDigits_ofDigits digits zero).symm
  · rintro ⟨spelled, small⟩
    have all : (Nat.toDigits 10 index).all Char.isDigit = true :=
      List.all_eq_true.mpr fun digit =>
        Nat.isDigit_of_mem_toDigits (by decide) (by decide)
    have canonical : ((Nat.toDigits 10 index).isEmpty ||
        (1 < (Nat.toDigits 10 index).length && (Nat.toDigits 10 index).head? = some '0')) =
          false := by
      rcases Nat.eq_zero_or_pos index with rfl | positive
      · decide
      · simp [Nat.toDigits_ne_nil, Number.head?_toDigits_ne_zero positive]
    have inside : index < 0x10000000000000000 := small
    simp [spelled, canonical, all, Number.ofDigits_toDigits, inside]

theorem isDenied_of_arrayIndex? {name : String} {index : Nat}
    (found : arrayIndex? name = some index) : isDenied name = false := by
  have none : ∀ denied ∈ denylist, arrayIndex? denied = none := by decide +kernel
  rw [isDenied, List.contains_eq_mem, decide_eq_false_iff_not]
  intro member
  rw [none name member] at found
  cases found

namespace Value

/-! ## What values own -/

/-- What an object or an array has under a name. -/
inductive Owns : Value → String → Value → Prop
  | entry {entries : List (String × Value)} {name : String} {value : Value} :
      isDenied name = false → (name, value) ∈ entries → Owns (.object entries) name value
  | length {items : List Value} :
      Owns (.array items) "length" (.number (Float.ofNat items.length))
  | item {items : List Value} {index : Nat} {value : Value} :
      items[index]? = some value → index < UInt64.size →
      Owns (.array items) (toString index) value

/-- An array, or an object whose keys are distinct. -/
inductive IsCollection : Value → Prop
  | array (items : List Value) : IsCollection (.array items)
  | object {entries : List (String × Value)} :
      (Dictionary.keys entries).Nodup → IsCollection (.object entries)

def own? (value : Value) (name : String) : Option Value :=
  match value with
  | .object entries => if isDenied name then none else Dictionary.get? entries name
  | .array items =>
      if name = "length" then some (.number (Float.ofNat items.length))
      else (arrayIndex? name).bind (items[·]?)
  | _ => none

theorem owns_iff {value : Value} (collection : value.IsCollection) {name : String}
    {owned : Value} : value.Owns name owned ↔ value.own? name = some owned := by
  cases collection with
  | object distinct =>
      rw [own?, Option.ite_none_left_eq_some, Dictionary.get?_eq_some_iff_mem distinct,
        Bool.not_eq_true]
      constructor
      · rintro ⟨allowed, member⟩
        exact ⟨allowed, member⟩
      · rintro ⟨allowed, member⟩
        exact .entry allowed member
  | array items =>
      constructor
      · intro owns
        cases owns with
        | length => rfl
        | @item _ index _ stored small =>
            have found : arrayIndex? (toString index) = some index :=
              arrayIndex?_eq_some_iff.mpr ⟨rfl, small⟩
            have other : toString index ≠ "length" := by
              intro same
              simp [same] at found
            rw [own?, if_neg other, found]
            exact stored
      · intro owns
        rw [own?] at owns
        split at owns
        next same =>
          cases owns
          exact same ▸ .length
        next =>
          rcases Option.bind_eq_some_iff.mp owns with ⟨index, found, stored⟩
          rcases arrayIndex?_eq_some_iff.mp found with ⟨rfl, small⟩
          exact .item stored small

theorem hasOwn?_eq {value : Value} (collection : value.IsCollection) (name : String) :
    value.hasOwn? name = some (value.own? name).isSome := by
  cases collection with
  | @object entries =>
      rw [hasOwn?, own?, Option.some.injEq, Bool.eq_iff_iff]
      cases isDenied name <;> simp [Dictionary.has_eq_true, Option.isSome_iff_exists]
  | array items =>
      rw [hasOwn?, own?]
      by_cases length : name = "length"
      · simp [length]
      · cases arrayIndex? name with
        | none => simp [length]
        | some index =>
            have inside : decide (index < items.length) = items[index]?.isSome := by
              rw [Bool.eq_iff_iff]
              simp
            simp [length, inside]

theorem member_eq {value : Value} (collection : value.IsCollection) (name : String) :
    value.member name = .ok ((value.own? name).getD .undefined) := by
  cases collection with
  | object =>
      rw [member, own?]
      split <;> rfl
  | array items =>
      rw [member, own?]
      split
      next denied =>
        have other : name ≠ "length" := by
          rintro rfl
          cases denied
        cases found : arrayIndex? name with
        | none => simp [other]
        | some index =>
            rw [isDenied_of_arrayIndex? found] at denied
            cases denied
      next => split <;> rfl

/-- A position has one name, its decimal text, if it fits 64 bits. The operator `in` finds in
an array or an object exactly what that has: an entry under a name that is not denied, or the
length or an item. What it finds is what reading yields, and where it finds nothing, reading
yields `undefined`. -/
theorem within_agrees_with_member :
    (∀ name index, arrayIndex? name = some index ↔
      name = toString index ∧ index < UInt64.size) ∧
    (∀ one other index, arrayIndex? one = some index → arrayIndex? other = some index →
      one = other) ∧
    ∀ key value : Value, value.IsCollection →
      ∃ found, BinaryOperator.within.apply key value = .ok (.boolean found) ∧
        (found = true ↔ ∃ owned, value.Owns key.text owned) ∧
        (found = false → value.member key.text = .ok .undefined) ∧
        ∀ owned, value.Owns key.text owned → value.member key.text = .ok owned := by
  refine ⟨fun name index => arrayIndex?_eq_some_iff, ?_, ?_⟩
  · intro one other index isOne isOther
    rw [(arrayIndex?_eq_some_iff.mp isOne).1, (arrayIndex?_eq_some_iff.mp isOther).1]
  · intro key value collection
    have tested := hasOwn?_eq collection key.text
    refine ⟨(value.own? key.text).isSome, ?_, ?_, ?_, ?_⟩
    · simp only [BinaryOperator.apply, tested]
    · simp only [owns_iff collection, Option.isSome_iff_exists]
    · intro absent
      rw [Option.isSome_eq_false_iff, Option.isNone_iff_eq_none] at absent
      rw [member_eq collection, absent]
      rfl
    · intro owned owns
      rw [member_eq collection, (owns_iff collection).mp owns]
      rfl

/-! An array asked for one item under two texts, and an object with a denied key. -/

def twoItems : Value := array [.null, .boolean true]

def deniedEntry : Value := object [("this", .null), ("01", .null)]

theorem within_agrees_with_member_of_leading_zero :
    twoItems.IsCollection ∧ deniedEntry.IsCollection ∧ twoItems.Owns "1" (.boolean true) ∧
      twoItems.member "1" = .ok (.boolean true) ∧
      BinaryOperator.within.apply (.string "01") twoItems = .ok (.boolean false) ∧
      (¬ ∃ owned, twoItems.Owns "01" owned) ∧
      BinaryOperator.within.apply (.string "01") deniedEntry = .ok (.boolean true) ∧
      (∃ owned, deniedEntry.Owns "01" owned) ∧
      BinaryOperator.within.apply (.string "this") deniedEntry = .ok (.boolean false) ∧
      deniedEntry.member "this" = .ok .undefined := by
  have isArray : twoItems.IsCollection := .array _
  have isObject : deniedEntry.IsCollection := .object (by decide)
  have second : [Value.null, .boolean true][1]? = some (.boolean true) := rfl
  have owns : twoItems.Owns "1" (.boolean true) := .item second (by decide)
  have absent : BinaryOperator.within.apply (.string "01") twoItems = .ok (.boolean false) := rfl
  have present : BinaryOperator.within.apply (.string "01") deniedEntry = .ok (.boolean true) :=
    rfl
  have denied : BinaryOperator.within.apply (.string "this") deniedEntry =
      .ok (.boolean false) := rfl
  rcases within_agrees_with_member with ⟨-, -, properties⟩
  rcases properties (.string "1") twoItems isArray with ⟨_, -, -, -, read⟩
  rcases properties (.string "01") twoItems isArray with ⟨_, noItem, ownsItem, -⟩
  rcases properties (.string "01") deniedEntry isObject with ⟨_, entry, ownsEntry, -⟩
  rcases properties (.string "this") deniedEntry isObject with ⟨_, noEntry, -, unread, -⟩
  cases absent.symm.trans noItem
  cases present.symm.trans entry
  cases denied.symm.trans noEntry
  exact ⟨isArray, isObject, owns, read _ owns, absent, mt ownsItem.mpr Bool.false_ne_true,
    present, ownsEntry.mp rfl, denied, unread rfl⟩

end Value

end PageTemplates
