import PageTemplates.Dictionary
import PageTemplates.Storage

/-! # Files in a table

A storage whose files stand in a table under the components of their paths. A file may
be set to fail on one of the two calls. No time passes, and nothing can be watched.
-/

namespace PageTemplates

inductive FailingCall
  | modified
  | read
  deriving Repr, DecidableEq

structure TableFile where
  content : String
  modified : Time
  failure? : Option (FailingCall × Failure)
  deriving Repr

structure FileTable where
  files : Dictionary (List Component) TableFile

namespace FileTable

def empty : FileTable := ⟨[]⟩

def write (table : FileTable) (path : Path) (file : TableFile) : FileTable :=
  ⟨Dictionary.put path.components file table.files⟩

def delete (table : FileTable) (path : Path) : FileTable :=
  ⟨Dictionary.erase path.components table.files⟩

def find (table : FileTable) (call : FailingCall) (path : Path) :
    Except Failure TableFile :=
  match Dictionary.get? table.files path.components with
  | none => .error ⟨.notFound, "entity not found"⟩
  | some file =>
      match file.failure? with
      | some (failing, failure) => if failing = call then .error failure else .ok file
      | none => .ok file

def storage : Storage FileTable where
  modified path table := ((table.find .modified path).map TableFile.modified, table)
  read path table := ((table.find .read path).map TableFile.content, table)
  clock _ := 0
  canWatch _ _ := false

end FileTable

end PageTemplates
