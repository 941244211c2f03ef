import PageTemplates.Text.Split
import PageTemplates.Value.Member

/-! # Contexts

The data a page is made from: named JSON values. A path of names is looked up through
own properties only, and a path that mentions a denied name leads nowhere.
-/

namespace PageTemplates

/-- Named JSON values, by increasing name. -/
structure Context where
  entries : Dictionary String Json
  ordered : (Json.object entries).isOrdered = true
  deriving Repr

namespace Context

def empty : Context := ⟨[], rfl⟩

/-- The context of an object's entries. Any other data gives the empty context. -/
def ofData : Data → Context
  | ⟨.object entries, ordered⟩ => ⟨entries, ordered⟩
  | _ => empty

def get? (context : Context) (name : String) : Option Json :=
  Dictionary.get? context.entries name

def insert (context : Context) (name : String) (value : Data) : Context where
  entries := Dictionary.putSorted name value.json context.entries
  ordered := Json.isOrdered_putSorted context.ordered name value.ordered

def contains (context : Context) (name : String) : Bool :=
  Dictionary.has context.entries name

def merge (context other : Context) : Context where
  entries := other.entries.foldl
    (fun merged entry => Dictionary.putSorted entry.1 entry.2 merged) context.entries
  ordered :=
    List.foldlRecOn (motive := fun merged => (Json.object merged).isOrdered = true)
      other.entries _ context.ordered fun _ ordered entry member =>
        Json.isOrdered_putSorted ordered entry.1
          ((Json.isOrdered_object.mp other.ordered).2 entry member)

def names (context : Context) : List String :=
  Dictionary.keys context.entries

def size (context : Context) : Nat :=
  context.entries.length

def isEmpty (context : Context) : Bool :=
  context.entries.isEmpty

/-! ## Paths -/

/-- A step of a path from a value that the data does not store. A value that counts as
false ends the path, so the empty string has no length here. -/
def derivedStep (value : Value) (name : String) : Value :=
  if value.isTrue then
    match value.member name with
    | .ok found => found
    | .error _ => .undefined
  else
    .undefined

/-- What the data stores under a name: an entry of an object or an item of an array. -/
def storedStep? : Json → String → Option Json
  | .object entries, name => Dictionary.get? entries name
  | .array items, name => (arrayIndex? name).bind (items[·]?)
  | _, _ => none

/-- Follow names from stored data. Where nothing is stored under a name, the length of
an array and the properties of a string are derived; the rest of the path goes on from
there. -/
def follow : Json → List String → Value
  | json, [] => Value.ofJson json
  | json, name :: rest =>
      match storedStep? json name with
      | some found => follow found rest
      | none =>
          match json with
          | .array items =>
              if name = "length" then
                rest.foldl derivedStep (Value.ofLength items.length)
              else
                .undefined
          | .object _ => .undefined
          | _ => rest.foldl derivedStep (derivedStep (Value.ofJson json) name)

/-- The value at the end of a path. A step that leads nowhere gives `undefined`. -/
def lookup (context : Context) (path : List String) : Value :=
  if path.any isDenied then
    .undefined
  else
    match path with
    | [] => .undefined
    | first :: rest =>
        match context.get? first with
        | some json => follow json rest
        | none => .undefined

/-- The names of a path that is written with points between them. -/
def namesOf (dotted : String) : List String :=
  (Text.splitAt '.' dotted.toList).map String.ofList

def lookupDotted (context : Context) (dotted : String) : Value :=
  context.lookup (namesOf dotted)

end Context

end PageTemplates
