import PageTemplates.Dictionary
import PageTemplates.Number.Exact

/-! # JSON values

What the data of a page is made of. Whole numbers of 64 bits keep their exact value. The
objects of data list their entries by increasing key, so that no key stands twice; keys are
compared by code points.
-/

namespace PageTemplates

/-- A JSON number: a whole number, signed or unsigned, of 64 bits, or a double. -/
inductive JsonNumber
  | whole (value : Int)
  | double (value : Float)
  deriving Repr, DecidableEq

def JsonNumber.toFloat : JsonNumber → Float
  | .whole value => Float.ofInt value
  | .double value => value

inductive Json
  | null
  | boolean (value : Bool)
  | number (value : JsonNumber)
  | string (value : String)
  | array (items : List Json)
  | object (entries : List (String × Json))
  deriving Repr, Inhabited

namespace Json

/-- The object of the given entries. Of entries with one key the last counts. -/
def ofEntries (entries : List (String × Json)) : Json :=
  .object (Dictionary.sorted entries)

/-- The double as JSON has it: what is not finite has no number and becomes null. -/
def ofFloat (value : Float) : Json :=
  match Number.Exact.ofFloat value with
  | .finite .. => .number (.double value)
  | _ => .null

def entries? : Json → Option (Dictionary String Json)
  | .object entries => some entries
  | _ => none

def get? (json : Json) (key : String) : Option Json :=
  json.entries?.bind fun entries => Dictionary.get? entries key

/-! ## Order -/

mutual

/-- Whether the entries of every object, at any depth, stand by increasing key. -/
def isOrdered : Json → Bool
  | null | boolean _ | number _ | string _ => true
  | array items => itemsOrdered items
  | object entries => decide (Dictionary.Increases entries) && entriesOrdered entries

def itemsOrdered : List Json → Bool
  | [] => true
  | item :: rest => item.isOrdered && itemsOrdered rest

def entriesOrdered : List (String × Json) → Bool
  | [] => true
  | (_, value) :: rest => value.isOrdered && entriesOrdered rest

end

theorem itemsOrdered_iff {items : List Json} :
    itemsOrdered items = true ↔ ∀ item ∈ items, item.isOrdered = true := by
  induction items with
  | nil => simp [itemsOrdered]
  | cons item rest induction => simp [itemsOrdered, induction]

theorem entriesOrdered_iff {entries : List (String × Json)} :
    entriesOrdered entries = true ↔ ∀ entry ∈ entries, entry.2.isOrdered = true := by
  induction entries with
  | nil => simp [entriesOrdered]
  | cons entry rest induction => simp [entriesOrdered, induction]

@[simp]
theorem isOrdered_array {items : List Json} :
    (array items).isOrdered = true ↔ ∀ item ∈ items, item.isOrdered = true := by
  rw [isOrdered, itemsOrdered_iff]

@[simp]
theorem isOrdered_object {entries : List (String × Json)} :
    (object entries).isOrdered = true ↔
      Dictionary.Increases entries ∧ ∀ entry ∈ entries, entry.2.isOrdered = true := by
  rw [isOrdered, Bool.and_eq_true, decide_eq_true_iff, entriesOrdered_iff]

theorem isOrdered_ofEntries {entries : List (String × Json)}
    (all : ∀ entry ∈ entries, entry.2.isOrdered = true) : (ofEntries entries).isOrdered = true :=
  isOrdered_object.mpr ⟨Dictionary.increases_sorted entries,
    fun entry member => all entry (Dictionary.mem_of_mem_sorted member)⟩

theorem isOrdered_putSorted {entries : List (String × Json)}
    (ordered : (object entries).isOrdered = true) (key : String) {value : Json}
    (added : value.isOrdered = true) :
    (object (Dictionary.putSorted key value entries)).isOrdered = true := by
  rw [isOrdered_object] at ordered ⊢
  refine ⟨Dictionary.increases_putSorted ordered.1 key value, fun entry member => ?_⟩
  rcases Dictionary.mem_of_mem_putSorted member with rfl | earlier
  · exact added
  · exact ordered.2 entry earlier

theorem isOrdered_filter {entries : List (String × Json)}
    (ordered : (object entries).isOrdered = true) (accepts : String × Json → Bool) :
    (object (entries.filter accepts)).isOrdered = true := by
  rw [isOrdered_object] at ordered ⊢
  exact ⟨ordered.1.sublist (List.filter_sublist.map Prod.fst),
    fun entry member => ordered.2 entry (List.mem_filter.mp member).1⟩

@[simp]
theorem isOrdered_ofFloat (value : Float) : (ofFloat value).isOrdered = true := by
  unfold ofFloat
  split <;> rfl

end Json

/-- A JSON value in which the entries of every object stand by increasing key. -/
structure Data where
  json : Json
  ordered : json.isOrdered = true
  deriving Repr

def Data.string (text : String) : Data := ⟨.string text, rfl⟩

end PageTemplates
