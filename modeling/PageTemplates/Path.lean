import PageTemplates.Text.Split

/-! # File paths

A path is kept as it was written. Two paths name the same file when they have the same
components, so repeated and trailing slashes and inner points do not matter.
-/

namespace PageTemplates

inductive Component
  | root
  /-- A point that the path begins with. -/
  | here
  | parent
  | name (text : String)
  deriving Repr, DecidableEq

structure Path where
  text : String
  deriving Repr, DecidableEq

namespace Path

def empty : Path := ⟨""⟩

/-- The component of a part between slashes. Empty parts and points make none. -/
def componentOf? (part : List Char) : Option Component :=
  if part = [] || part = ['.'] then none
  else if part = ['.', '.'] then some .parent
  else some (.name (String.ofList part))

/-- What the start of a path adds: the root for a slash, and `here` for a point that
stands alone. -/
def start (text : List Char) : List Component :=
  match Text.splitAt '/' text with
  | [] :: _ :: _ => [.root]
  | ['.'] :: _ => [.here]
  | _ => []

def components (path : Path) : List Component :=
  start path.text.toList ++ (Text.splitAt '/' path.text.toList).filterMap componentOf?

example : components ⟨"/a//./b/"⟩ = [.root, .name "a", .name "b"] := by decide +kernel

example : components ⟨"./../a"⟩ = [.here, .parent, .name "a"] := by decide +kernel

def isAbsolute (path : Path) : Bool :=
  ['/'].isPrefixOf path.text.toList

/-- A path below another one: a slash stands between the two unless the first is empty
or ends in one. An absolute path replaces what it is joined to. -/
def join (base : Path) (below : Path) : Path :=
  if below.isAbsolute then
    below
  else if base.text.isEmpty || base.text.toList.getLast? = some '/' then
    ⟨base.text ++ below.text⟩
  else
    ⟨base.text ++ "/" ++ below.text⟩

example : join ⟨"/a/"⟩ ⟨"b"⟩ = ⟨"/a/b"⟩ := by decide +kernel

example : join ⟨"a"⟩ ⟨"b"⟩ = ⟨"a/b"⟩ := by decide +kernel

/-- Whether the file of some components is a directory or lies under it. -/
def covers (directory : Path) (file : List Component) : Bool :=
  directory.components.isPrefixOf file

example : covers ⟨"/a/"⟩ (components ⟨"//a/b"⟩) = true := by decide +kernel

example : covers ⟨"/a"⟩ (components ⟨"/ab/c"⟩) = false := by decide +kernel

@[simp]
theorem covers_iff {directory : Path} {file : List Component} :
    directory.covers file = true ↔ directory.components <+: file :=
  List.isPrefixOf_iff_prefix

end Path

end PageTemplates
