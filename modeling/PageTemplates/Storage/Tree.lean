import PageTemplates.Dictionary
import PageTemplates.Storage

/-! # Files in a directory tree

A storage of directories and files. A path is followed name by name from the top; each
name but the last has to be a directory. A file is text only if its bytes are UTF-8.
-/

namespace PageTemplates

/-- The names that lead from the top of a tree to a place in it. -/
abbrev Place := List String

inductive FileNode
  | file (content : ByteArray) (modified : Time)
  | directory (modified : Time)

/-- What stands at the places of a tree. The top is always a directory. -/
structure FileTree where
  nodes : Dictionary Place FileNode

namespace FileTree

/-! ## Failures -/

def missing : Failure := ⟨.notFound, "No such file or directory (os error 2)"⟩

def notDirectory : Failure := ⟨.other, "Not a directory (os error 20)"⟩

def isDirectory : Failure := ⟨.other, "Is a directory (os error 21)"⟩

def nameTooLong : Failure := ⟨.other, "File name too long (os error 36)"⟩

def notText : Failure := ⟨.other, "stream did not contain valid UTF-8"⟩

/-- The greatest length of a name, in bytes. -/
def nameLimit : Nat := 255

/-! ## Places -/

def empty : FileTree := ⟨[]⟩

def node? (tree : FileTree) (place : Place) : Option FileNode :=
  if place = [] then some (.directory 0) else Dictionary.get? tree.nodes place

def step (tree : FileTree) (place : Place) : Component → Except Failure Place
  | .root => .ok []
  | component =>
      match tree.node? place with
      | none => .error missing
      | some (.file _ _) => .error notDirectory
      | some (.directory _) =>
          match component with
          | .name text =>
              if nameLimit < text.utf8ByteSize then .error nameTooLong
              else .ok (place ++ [text])
          | .parent => .ok place.dropLast
          | _ => .ok place

def find (tree : FileTree) (path : Path) : Except Failure FileNode :=
  match path.components.foldlM tree.step [] with
  | .error failure => .error failure
  | .ok place =>
      match tree.node? place with
      | some node => .ok node
      | none => .error missing

def modified (tree : FileTree) (path : Path) : Except Failure Time :=
  (tree.find path).map fun
    | .file _ time => time
    | .directory time => time

def read (tree : FileTree) (path : Path) : Except Failure String :=
  match tree.find path with
  | .error failure => .error failure
  | .ok (.directory _) => .error isDirectory
  | .ok (.file content _) =>
      match String.fromUTF8? content with
      | some text => .ok text
      | none => .error notText

def names (tree : FileTree) (path : Path) : Except Failure (List String) :=
  match path.components.foldlM tree.step [] with
  | .error failure => .error failure
  | .ok place =>
      match tree.node? place with
      | none => .error missing
      | some (.file _ _) => .error notDirectory
      | some (.directory _) =>
          .ok (tree.nodes.filterMap fun entry =>
            if entry.1.dropLast = place then entry.1.getLast? else none)

/-! ## Changes -/

/-- The names of a path, without going up or down. -/
def placeOf (path : Path) : Place :=
  path.components.filterMap fun
    | .name text => some text
    | _ => none

/-- The places above a place, from the top down, without the top. -/
def ancestors : Place → List Place
  | [] => []
  | name :: rest => if rest = [] then [] else [name] :: (ancestors rest).map (name :: ·)

example : ancestors ["a", "b", "c"] = [["a"], ["a", "b"]] := by decide

/-- Make a place a directory unless something stands there. -/
def makeDirectory (time : Time) (tree : FileTree) (place : Place) : FileTree :=
  match tree.node? place with
  | some _ => tree
  | none => ⟨Dictionary.put place (.directory time) tree.nodes⟩

/-- Put a file or directory at a place, and the directories above it where there are
none. -/
def put (tree : FileTree) (path : Path) (node : FileNode) (time : Time) : FileTree :=
  let place := placeOf path
  ⟨Dictionary.put place node ((ancestors place).foldl (makeDirectory time) tree).nodes⟩

def delete (tree : FileTree) (path : Path) : FileTree :=
  ⟨tree.nodes.filter fun entry => !(placeOf path).isPrefixOf entry.1⟩

def storage : Storage FileTree where
  modified path tree := (tree.modified path, tree)
  read path tree := (tree.read path, tree)
  clock _ := 0
  canWatch path tree := (tree.find path).isOk

end FileTree

end PageTemplates
