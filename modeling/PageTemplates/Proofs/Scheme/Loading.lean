import PageTemplates.Proofs.Dictionary
import PageTemplates.Proofs.Except
import PageTemplates.Proofs.Text.Lines
import PageTemplates.Proofs.Text.Split
import PageTemplates.Scheme

/-! # Loading schemes

A directory is loaded as a whole. If anything of it cannot be read, the store stays as it
is. Otherwise each scheme of the directory is bound to what one of its files holds, and the
other names stay. Whether files are read while the directory is listed or after that makes
no difference.
-/

namespace PageTemplates

namespace Scheme

/-! ## The files of a listing -/

/-- A file whose name ends in `.html` holds a scheme. -/
def InFile (file : String) : Prop := ".html".toList <:+ file.toList

instance (file : String) : Decidable (InFile file) :=
  inferInstanceAs (Decidable (_ <:+ _))

/-- The name of a file up to its first point. -/
def stem (file : String) : String :=
  String.ofList (file.toList.takeWhile (· ≠ '.'))

theorem nameOf?_eq (file : String) :
    nameOf? file = if InFile file then some (stem file) else none := by
  by_cases ends : InFile file
  · rw [nameOf?, if_pos ends, if_pos (List.isSuffixOf_iff_suffix.mpr ends), Text.head?_splitAt]
    rfl
  · rw [nameOf?, if_neg ends, if_neg (mt List.isSuffixOf_iff_suffix.mp ends)]

/-- The files of a listing that hold schemes, in its order. -/
def filesOf (entries : List ListingEntry) : List String :=
  entries.filterMap fun
    | .ok (some file) => if InFile file then some file else none
    | _ => none

variable {storage : Path → Except Failure String} {directory : Path}

/-- Something of a directory cannot be read: the list of its files, as a whole or in part,
or a file that holds a scheme. -/
inductive Unreadable (storage : Path → Except Failure String) (directory : Path) :
    Listing → Prop
  | directory (failure : Failure) : Unreadable storage directory (.error failure)
  | entry {entries : List ListingEntry} {failure : Failure}
      (member : .error failure ∈ entries) : Unreadable storage directory (.ok entries)
  | file {entries : List ListingEntry} {file : String}
      {failure : Failure} (member : file ∈ filesOf entries)
      (failed : storage (directory.join ⟨file⟩) = .error failure) :
      Unreadable storage directory (.ok entries)

/-- An entry of a listing stands for a file that holds no scheme or can be read. -/
def Legible (storage : Path → Except Failure String) (directory : Path) :
    ListingEntry → Prop
  | .error _ => False
  | .ok none => True
  | .ok (some file) => InFile file → ∃ text, storage (directory.join ⟨file⟩) = .ok text

@[simp]
theorem mem_filesOf {entries : List ListingEntry} {file : String} :
    file ∈ filesOf entries ↔ .ok (some file) ∈ entries ∧ InFile file := by
  rw [filesOf, List.mem_filterMap]
  constructor
  · rintro ⟨entry, member, found⟩
    split at found
    next name =>
      rcases Option.ite_none_right_eq_some.mp found with ⟨inFile, same⟩
      exact Option.some.inj same ▸ ⟨member, inFile⟩
    next => cases found
  · rintro ⟨member, inFile⟩
    exact ⟨_, member, if_pos inFile⟩

theorem legible_of_readable {entries : List ListingEntry}
    (readable : ¬ Unreadable storage directory (.ok entries)) :
    ∀ entry ∈ entries, Legible storage directory entry := by
  rintro (failure | _ | file) member
  · exact readable (.entry member)
  · trivial
  · intro inFile
    cases answered : storage (directory.join ⟨file⟩) with
    | error failure =>
        exact absurd (.file (mem_filesOf.mpr ⟨member, inFile⟩) answered) readable
    | ok text => exact ⟨text, rfl⟩

theorem readable_of_legible {entries : List ListingEntry}
    (legible : ∀ entry ∈ entries, Legible storage directory entry) :
    ¬ Unreadable storage directory (.ok entries) := by
  rintro (_ | member | ⟨member, failed⟩)
  · exact legible _ member
  · rcases mem_filesOf.mp member with ⟨member, inFile⟩
    rcases legible _ member inFile with ⟨text, answered⟩
    rw [failed] at answered
    cases answered

/-! ## What is read -/

/-- The scheme in a file that can be read. -/
def ofFile (storage : Path → Except Failure String) (directory : Path) (file : String) :
    Scheme where
  name := stem file
  file := directory.join ⟨file⟩
  html := Text.normalizeLines ((storage (directory.join ⟨file⟩)).toOption.getD "")

theorem ofFile_eq {file text : String}
    (answered : storage (directory.join ⟨file⟩) = .ok text) :
    ofFile storage directory file =
      ⟨stem file, directory.join ⟨file⟩, Text.normalizeLines text⟩ := by
  rw [ofFile, answered]
  rfl

theorem read_eq {file text : String}
    (answered : storage (directory.join ⟨file⟩) = .ok text) :
    read storage directory (stem file) file = .ok (ofFile storage directory file) := by
  simp [read, answered, ofFile_eq answered]

theorem exists_of_read {name file : String} {scheme : Scheme}
    (found : read storage directory name file = .ok scheme) :
    ∃ text, storage (directory.join ⟨file⟩) = .ok text := by
  simp only [read] at found
  cases answered : storage (directory.join ⟨file⟩) with
  | error failure =>
      rw [answered] at found
      cases found
  | ok text => exact ⟨text, rfl⟩

theorem filesOf_cons_of_inFile {file : String} (inFile : InFile file)
    (rest : List ListingEntry) :
    filesOf (.ok (some file) :: rest) = file :: filesOf rest :=
  List.filterMap_cons_some (if_pos inFile)

theorem filesOf_cons_of_not_inFile {file : String} (other : ¬ InFile file)
    (rest : List ListingEntry) :
    filesOf (.ok (some file) :: rest) = filesOf rest :=
  List.filterMap_cons_none (if_neg other)

/-- A way to read a listing gives the schemes of its files if they can all be read, and
fails otherwise. -/
structure ReadsAll (storage : Path → Except Failure String) (directory : Path)
    (reading : List ListingEntry → Except Failure (List Scheme)) :
    Prop where
  whole {entries : List ListingEntry}
    (legible : ∀ entry ∈ entries, Legible storage directory entry) :
    reading entries = .ok ((filesOf entries).map (ofFile storage directory))
  legible {entries : List ListingEntry} {schemes : List Scheme}
    (found : reading entries = .ok schemes) :
    ∀ entry ∈ entries, Legible storage directory entry

/-! ## Reading in turn -/

theorem readInTurn_eq {entries : List ListingEntry}
    (legible : ∀ entry ∈ entries, Legible storage directory entry) :
    readInTurn storage directory entries =
      .ok ((filesOf entries).map (ofFile storage directory)) := by
  induction entries with
  | nil => rfl
  | cons entry rest induction =>
      have parts := List.forall_mem_cons.mp legible
      have others := induction parts.2
      rcases entry with failure | _ | file
      · exact parts.1.elim
      · exact others
      · rw [readInTurn, nameOf?_eq]
        by_cases inFile : InFile file
        · rcases parts.1 inFile with ⟨text, answered⟩
          rw [if_pos inFile, filesOf_cons_of_inFile inFile]
          dsimp only
          rw [read_eq answered, others]
          rfl
        · rw [if_neg inFile, filesOf_cons_of_not_inFile inFile]
          exact others

theorem legible_of_readInTurn {entries : List ListingEntry}
    {schemes : List Scheme} (found : readInTurn storage directory entries = .ok schemes) :
    ∀ entry ∈ entries, Legible storage directory entry := by
  induction entries generalizing schemes with
  | nil => nofun
  | cons entry rest induction =>
      rw [List.forall_mem_cons]
      rcases entry with failure | _ | file
      · cases found
      · exact ⟨trivial, induction found⟩
      · rw [readInTurn, nameOf?_eq] at found
        by_cases inFile : InFile file
        · rw [if_pos inFile] at found
          dsimp only at found
          split at found
          next => cases found
          next scheme first =>
            cases later : readInTurn storage directory rest with
            | error failure =>
                rw [later] at found
                cases found
            | ok others => exact ⟨fun _ => exists_of_read first, induction later⟩
        · rw [if_neg inFile] at found
          exact ⟨fun ends => absurd ends inFile, induction found⟩

theorem readsAll_readInTurn : ReadsAll storage directory (readInTurn storage directory) :=
  ⟨readInTurn_eq, legible_of_readInTurn⟩

/-! ## Reading together -/

theorem findAll_eq {entries : List ListingEntry}
    (listed : ∀ failure, .error failure ∉ entries) :
    findAll entries = .ok ((filesOf entries).map fun file => (stem file, file)) := by
  induction entries with
  | nil => rfl
  | cons entry rest induction =>
      have others := induction fun failure member =>
        listed failure (List.mem_cons_of_mem _ member)
      rcases entry with failure | _ | file
      · exact absurd List.mem_cons_self (listed failure)
      · exact others
      · rw [findAll, nameOf?_eq, others]
        by_cases inFile : InFile file
        · rw [if_pos inFile, filesOf_cons_of_inFile inFile]
          rfl
        · rw [if_neg inFile, filesOf_cons_of_not_inFile inFile]
          rfl

theorem listed_of_findAll {entries : List ListingEntry}
    {files : List (String × String)} (found : findAll entries = .ok files) :
    ∀ failure, .error failure ∉ entries := by
  induction entries generalizing files with
  | nil => exact fun failure => List.not_mem_nil
  | cons entry rest induction =>
      intro failure member
      rcases entry with other | _ | file
      · cases found
      · exact induction found failure ((List.mem_cons.mp member).resolve_left nofun)
      · rw [findAll] at found
        cases later : findAll rest with
        | error other =>
            rw [later] at found
            cases found
        | ok others =>
            exact induction later failure ((List.mem_cons.mp member).resolve_left nofun)

theorem readTogether_eq {entries : List ListingEntry}
    (legible : ∀ entry ∈ entries, Legible storage directory entry) :
    readTogether storage directory entries =
      .ok ((filesOf entries).map (ofFile storage directory)) := by
  rw [readTogether, findAll_eq fun failure member => legible _ member]
  dsimp only
  rw [List.mapM_map]
  refine mapM_eq_ok fun file member => ?_
  rcases mem_filesOf.mp member with ⟨member, inFile⟩
  rcases legible _ member inFile with ⟨text, answered⟩
  exact read_eq answered

theorem legible_of_readTogether {entries : List ListingEntry}
    {schemes : List Scheme} (found : readTogether storage directory entries = .ok schemes) :
    ∀ entry ∈ entries, Legible storage directory entry := by
  unfold readTogether at found
  split at found
  next => cases found
  next files listed =>
    have noFailure := listed_of_findAll listed
    rw [findAll_eq noFailure, Except.ok.injEq] at listed
    rw [← listed] at found
    rintro (failure | _ | file) member
    · exact noFailure failure member
    · trivial
    · intro inFile
      rcases exists_of_mapM_eq_ok found (stem file, file)
        (List.mem_map_of_mem (mem_filesOf.mpr ⟨member, inFile⟩)) with ⟨scheme, first⟩
      exact exists_of_read first

theorem readsAll_readTogether : ReadsAll storage directory (readTogether storage directory) :=
  ⟨readTogether_eq, legible_of_readTogether⟩

end Scheme

/-! ## Stores -/

namespace SchemeStore

variable {storage : Path → Except Failure String} {directory : Path}

@[simp]
theorem get?_insert (store : SchemeStore) (scheme : Scheme) (name : String) :
    (store.insert scheme).get? name =
      if scheme.name = name then some scheme else store.get? name := by
  simp [insert, get?]

theorem get?_foldl_insert_of_absent {schemes : List Scheme} {name : String}
    (absent : ∀ scheme ∈ schemes, scheme.name ≠ name) (store : SchemeStore) :
    (schemes.foldl insert store).get? name = store.get? name := by
  induction schemes generalizing store with
  | nil => rfl
  | cons scheme rest induction =>
      have parts := List.forall_mem_cons.mp absent
      rw [List.foldl_cons, induction parts.2]
      simp [parts.1]

theorem get?_foldl_insert_of_isLast {schemes : List Scheme} {name : String} {scheme : Scheme}
    (last : IsLast (fun scheme => scheme.name = name) schemes scheme) (store : SchemeStore) :
    (schemes.foldl insert store).get? name = some scheme := by
  rcases last with ⟨before, after, rfl, named, latest⟩
  rw [List.foldl_append, List.foldl_cons, get?_foldl_insert_of_absent latest]
  simp [named]

/-- The store after the schemes in the files were put into it, one after another. -/
def withFiles (store : SchemeStore) (storage : Path → Except Failure String)
    (directory : Path) (files : List String) : SchemeStore :=
  (files.map (Scheme.ofFile storage directory)).foldl insert store

theorem get?_withFiles_of_isLast {files : List String} {name file : String}
    (last : IsLast (fun file => Scheme.stem file = name) files file) (store : SchemeStore) :
    (store.withFiles storage directory files).get? name =
      some (Scheme.ofFile storage directory file) :=
  get?_foldl_insert_of_isLast
    (IsLast.map (fun scheme : Scheme => scheme.name = name) (Scheme.ofFile storage directory)
      last) store

theorem get?_withFiles_of_absent {files : List String} {name : String}
    (absent : ∀ file ∈ files, Scheme.stem file ≠ name) (store : SchemeStore) :
    (store.withFiles storage directory files).get? name = store.get? name :=
  get?_foldl_insert_of_absent (List.forall_mem_map.mpr absent) store

/-! ## Loading -/

variable {reading : List ListingEntry → Except Failure (List Scheme)}

theorem storeRead_of_readable (reads : Scheme.ReadsAll storage directory reading)
    {entries : List ListingEntry}
    (readable : ¬ Scheme.Unreadable storage directory (.ok entries)) (store : SchemeStore) :
    store.storeRead directory (reading entries) = (.ok (Scheme.filesOf entries).length,
      store.withFiles storage directory (Scheme.filesOf entries)) := by
  rw [reads.whole (Scheme.legible_of_readable readable)]
  simp [storeRead, extend, withFiles]

theorem storeRead_of_unreadable (reads : Scheme.ReadsAll storage directory reading)
    {listing : Listing} (unreadable : Scheme.Unreadable storage directory listing)
    (store : SchemeStore) :
    ∃ failure, store.storeRead directory (listing.bind reading) =
      (.error ⟨directory, failure⟩, store) := by
  cases listing with
  | error failure => exact ⟨failure, rfl⟩
  | ok entries =>
      rw [Except.bind]
      cases found : reading entries with
      | error failure => exact ⟨failure, rfl⟩
      | ok schemes =>
          exact absurd unreadable (Scheme.readable_of_legible (reads.legible found))

theorem load_of_readable {entries : List ListingEntry}
    (readable : ¬ Scheme.Unreadable storage directory (.ok entries)) (store : SchemeStore) :
    store.load storage directory (.ok entries) = (.ok (Scheme.filesOf entries).length,
      store.withFiles storage directory (Scheme.filesOf entries)) :=
  storeRead_of_readable Scheme.readsAll_readInTurn readable store

theorem loadTogether_of_readable {entries : List ListingEntry}
    (readable : ¬ Scheme.Unreadable storage directory (.ok entries)) (store : SchemeStore) :
    store.loadTogether storage directory (.ok entries) =
      (.ok (Scheme.filesOf entries).length,
        store.withFiles storage directory (Scheme.filesOf entries)) :=
  storeRead_of_readable Scheme.readsAll_readTogether readable store

/-- A load in which something cannot be read fails with the directory and leaves the store
as it is. Any other gives the number of files that hold schemes, and leaves each name of one
bound to the scheme in a file of that name, and all other names as they were. Both ways to
load agree. -/
theorem load_all_or_nothing (store : SchemeStore)
    (storage : Path → Except Failure String) (directory : Path) (listing : Listing) :
    (Scheme.Unreadable storage directory listing →
      (∃ failure,
        store.load storage directory listing = (.error ⟨directory, failure⟩, store)) ∧
      ∃ failure,
        store.loadTogether storage directory listing =
          (.error ⟨directory, failure⟩, store)) ∧
    (¬ Scheme.Unreadable storage directory listing →
      ∃ entries after, listing = .ok entries ∧
        store.load storage directory listing = (.ok (Scheme.filesOf entries).length, after) ∧
        store.loadTogether storage directory listing =
          (.ok (Scheme.filesOf entries).length, after) ∧
        (∀ name, (∃ file ∈ Scheme.filesOf entries, Scheme.stem file = name) →
          ∃ file ∈ Scheme.filesOf entries, Scheme.stem file = name ∧
            ∃ text, storage (directory.join ⟨file⟩) = .ok text ∧
              after.get? name =
                some ⟨name, directory.join ⟨file⟩, Text.normalizeLines text⟩) ∧
        ∀ name, (∀ file ∈ Scheme.filesOf entries, Scheme.stem file ≠ name) →
          after.get? name = store.get? name) := by
  refine ⟨fun unreadable =>
    ⟨storeRead_of_unreadable Scheme.readsAll_readInTurn unreadable store,
      storeRead_of_unreadable Scheme.readsAll_readTogether unreadable store⟩,
    fun readable => ?_⟩
  cases listing with
  | error failure => exact absurd (.directory failure) readable
  | ok entries =>
      refine ⟨entries, store.withFiles storage directory (Scheme.filesOf entries), rfl,
        load_of_readable readable store, loadTogether_of_readable readable store, ?_,
        fun name absent => get?_withFiles_of_absent absent store⟩
      intro name claimed
      rcases exists_isLast claimed with ⟨file, last⟩
      rcases last.mem with ⟨member, named⟩
      rcases Scheme.mem_filesOf.mp member with ⟨listed, inFile⟩
      rcases Scheme.legible_of_readable readable _ listed inFile with ⟨text, answered⟩
      refine ⟨file, member, named, text, answered, ?_⟩
      rw [get?_withFiles_of_isLast last, Scheme.ofFile_eq answered, named]

/-! A directory in which only the file `main.html` can be read. -/

private def onlyMain : Path → Except Failure String
  | ⟨"schemes/main.html"⟩ => .ok "a\r\nb"
  | _ => .error ⟨.other, "Is a directory (os error 21)"⟩

/-- The broken file comes after one that was read. A name that is no text is no obstacle. -/
theorem load_all_or_nothing_of_broken :
    let store := (empty.insert ⟨"main", .empty, "old"⟩).insert ⟨"other", .empty, "kept"⟩
    let broken : List ListingEntry :=
      [.ok (some "main.html"), .ok (some "gone.html")]
    let whole : List ListingEntry :=
      [.ok (some "notes.txt"), .ok none, .ok (some "main.html")]
    Scheme.Unreadable onlyMain ⟨"schemes"⟩ (.ok broken) ∧
      (∃ failure, store.load onlyMain ⟨"schemes"⟩ (.ok broken) =
        (.error ⟨⟨"schemes"⟩, failure⟩, store)) ∧
      ¬ Scheme.Unreadable onlyMain ⟨"schemes"⟩ (.ok whole) ∧
      ∃ after, store.load onlyMain ⟨"schemes"⟩ (.ok whole) = (.ok 1, after) ∧
        after.get? "main" = some ⟨"main", ⟨"schemes/main.html"⟩, "a\nb"⟩ ∧
        after.get? "other" = some ⟨"other", .empty, "kept"⟩ := by
  intro store broken whole
  have files : Scheme.filesOf whole = ["main.html"] := by decide +kernel
  have path : Path.join ⟨"schemes"⟩ ⟨"main.html"⟩ = ⟨"schemes/main.html"⟩ := by
    decide +kernel
  have unreadable : Scheme.Unreadable onlyMain ⟨"schemes"⟩ (.ok broken) :=
    .file (by decide +kernel : "gone.html" ∈ Scheme.filesOf broken) rfl
  have readable : ¬ Scheme.Unreadable onlyMain ⟨"schemes"⟩ (.ok whole) := by
    have notes : Scheme.Legible onlyMain ⟨"schemes"⟩ (.ok (some "notes.txt")) :=
      fun ends => absurd ends (by decide +kernel)
    have main : Scheme.Legible onlyMain ⟨"schemes"⟩ (.ok (some "main.html")) :=
      fun _ => ⟨"a\r\nb", by rw [path]; rfl⟩
    exact Scheme.readable_of_legible (List.forall_mem_cons.mpr ⟨notes,
      List.forall_mem_cons.mpr ⟨trivial, List.forall_mem_singleton.mpr main⟩⟩)
  have failed := (load_all_or_nothing store onlyMain ⟨"schemes"⟩ (.ok broken)).1 unreadable
  refine ⟨unreadable, failed.1, readable, ?_⟩
  rcases (load_all_or_nothing store onlyMain ⟨"schemes"⟩ (.ok whole)).2 readable with
    ⟨entries, after, same, loaded, -, bound, others⟩
  rw [← Except.ok.inj same, files] at loaded bound others
  refine ⟨after, loaded, ?_, ?_⟩
  · rcases bound "main" ⟨"main.html", by decide +kernel⟩ with
      ⟨file, member, -, text, answered, found⟩
    rw [List.mem_singleton.mp member, path] at answered found
    rw [found, ← Except.ok.inj answered]
    decide +kernel
  · rw [others "other" (by decide +kernel)]
    decide +kernel

end SchemeStore

end PageTemplates
