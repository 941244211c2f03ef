import PageTemplates.Dictionary
import PageTemplates.Storage
import PageTemplates.Text.Lines
import PageTemplates.Text.Split

/-! # Schemes

The skeletons that pages are rendered into. A directory of schemes is loaded as a
whole: if one of its files cannot be read, nothing is stored.
-/

namespace PageTemplates

structure Scheme where
  name : String
  /-- The file that the scheme was read from, or the empty path. -/
  file : Path
  html : String
  deriving Repr, DecidableEq

/-- Schemes under their names, by increasing name. -/
structure SchemeStore where
  schemes : Dictionary String Scheme
  deriving Repr

structure SchemesError where
  directory : Path
  failure : Failure
  deriving Repr, DecidableEq

def SchemesError.message (error : SchemesError) : String :=
  "failed to load schemes from `" ++ error.directory.text ++ "`: " ++ error.failure.text

/-- What the listing of a directory yields at one place: a failure, or a file by its name,
which is left out if it is no text. -/
abbrev ListingEntry := Except Failure (Option String)

/-- What the listing of a directory yields, in the order in which the storage has it. -/
abbrev Listing := Except Failure (List ListingEntry)

namespace Scheme

/-- The name of the scheme in a file: the name of the file up to its first point. Only
files that end in `.html` hold schemes. -/
def nameOf? (file : String) : Option String :=
  if ".html".toList.isSuffixOf file.toList then
    (Text.splitAt '.' file.toList).head?.map String.ofList
  else
    none

example : nameOf? "main.v2.html" = some "main" := by decide +kernel

example : nameOf? "main.HTML" = none := by decide +kernel

/-- The scheme in a file of a directory, read from the storage. -/
def read (storage : Path → Except Failure String) (directory : Path)
    (name file : String) : Except Failure Scheme :=
  let path := directory.join ⟨file⟩
  (storage path).map fun text => ⟨name, path, Text.normalizeLinesIfNeeded text⟩

/-- Read the schemes of a listing, each file as it is met. -/
def readInTurn (storage : Path → Except Failure String) (directory : Path) :
    List ListingEntry → Except Failure (List Scheme)
  | [] => .ok []
  | .error failure :: _ => .error failure
  | .ok none :: rest => readInTurn storage directory rest
  | .ok (some file) :: rest =>
      match nameOf? file with
      | none => readInTurn storage directory rest
      | some name =>
          match read storage directory name file with
          | .error failure => .error failure
          | .ok scheme => (readInTurn storage directory rest).map (scheme :: ·)

/-- The names of the schemes of a listing beside their files. -/
def findAll : List ListingEntry → Except Failure (List (String × String))
  | [] => .ok []
  | .error failure :: _ => .error failure
  | .ok none :: rest => findAll rest
  | .ok (some file) :: rest =>
      (findAll rest).map fun found =>
        match nameOf? file with
        | none => found
        | some name => (name, file) :: found

/-- Read the schemes of a listing, the files only after the whole listing. -/
def readTogether (storage : Path → Except Failure String) (directory : Path)
    (files : List ListingEntry) : Except Failure (List Scheme) :=
  match findAll files with
  | .error failure => .error failure
  | .ok found => found.mapM fun (name, file) => read storage directory name file

end Scheme

namespace SchemeStore

def empty : SchemeStore := ⟨[]⟩

def get? (store : SchemeStore) (name : String) : Option Scheme :=
  Dictionary.get? store.schemes name

def contains (store : SchemeStore) (name : String) : Bool :=
  Dictionary.has store.schemes name

def insert (store : SchemeStore) (scheme : Scheme) : SchemeStore :=
  ⟨Dictionary.putSorted scheme.name scheme store.schemes⟩

def remove (store : SchemeStore) (name : String) : SchemeStore :=
  ⟨Dictionary.erase name store.schemes⟩

def names (store : SchemeStore) : List String :=
  Dictionary.keys store.schemes

def size (store : SchemeStore) : Nat :=
  store.schemes.length

def isEmpty (store : SchemeStore) : Bool :=
  store.schemes.isEmpty

def extend (store : SchemeStore) (schemes : List Scheme) : Nat × SchemeStore :=
  (schemes.length, schemes.foldl insert store)

/-- Store what was read of a directory, or nothing if reading failed. -/
def storeRead (store : SchemeStore) (directory : Path)
    (schemes : Except Failure (List Scheme)) : Except SchemesError Nat × SchemeStore :=
  match schemes with
  | .error failure => (.error ⟨directory, failure⟩, store)
  | .ok schemes =>
      let (count, store) := store.extend schemes
      (.ok count, store)

/-- Load the schemes of a directory, reading each file as the listing yields it. -/
def load (store : SchemeStore) (storage : Path → Except Failure String)
    (directory : Path) (listing : Listing) : Except SchemesError Nat × SchemeStore :=
  store.storeRead directory
    (listing.bind fun files => Scheme.readInTurn storage directory files)

/-- Load the schemes of a directory, reading the files after the whole listing. -/
def loadTogether (store : SchemeStore) (storage : Path → Except Failure String)
    (directory : Path) (listing : Listing) : Except SchemesError Nat × SchemeStore :=
  store.storeRead directory
    (listing.bind fun files => Scheme.readTogether storage directory files)

end SchemeStore

end PageTemplates
