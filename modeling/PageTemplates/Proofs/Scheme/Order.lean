import PageTemplates.Proofs.Scheme.Loading

/-! # The order of a listing

Names of files that agree up to their first point claim one name of the store, and the file
that is listed last has it. So the order of a listing shows, but only under names that more
than one file claims.
-/

namespace PageTemplates

namespace Scheme

variable {storage : Path → Except Failure String} {directory : Path}
  {entries others : List ListingEntry}

theorem perm_filesOf (same : entries.Perm others) :
    (filesOf entries).Perm (filesOf others) :=
  same.filterMap _

theorem readable_of_perm (same : entries.Perm others)
    (readable : ¬ Unreadable storage directory (.ok entries)) :
    ¬ Unreadable storage directory (.ok others) :=
  readable_of_legible fun entry member =>
    legible_of_readable readable entry (same.mem_iff.mpr member)

end Scheme

namespace SchemeStore

variable {storage : Path → Except Failure String} {directory : Path}
  {files others : List String}

theorem contains_eq_isSome (store : SchemeStore) (name : String) :
    store.contains name = (store.get? name).isSome := by
  rw [Bool.eq_iff_iff, contains, Dictionary.has_eq_true, Option.isSome_iff_exists, get?]

theorem contains_withFiles (store : SchemeStore) (name : String) :
    (store.withFiles storage directory files).contains name =
      (store.contains name || decide (∃ file ∈ files, Scheme.stem file = name)) := by
  rw [contains_eq_isSome, contains_eq_isSome]
  by_cases claimed : ∃ file ∈ files, Scheme.stem file = name
  · rcases exists_isLast claimed with ⟨file, last⟩
    rw [get?_withFiles_of_isLast last, decide_eq_true claimed, Option.isSome_some, Bool.or_true]
  · rw [get?_withFiles_of_absent (by simpa using claimed), decide_eq_false claimed,
      Bool.or_false]

/-- Under a name that only one file claims, the order of the files makes no difference. -/
theorem get?_withFiles_of_perm (same : files.Perm others) {name : String}
    (one : ∀ file ∈ files, ∀ other ∈ files,
      Scheme.stem file = name → Scheme.stem other = name → file = other)
    (store : SchemeStore) :
    (store.withFiles storage directory files).get? name =
      (store.withFiles storage directory others).get? name := by
  by_cases claimed : ∃ file ∈ files, Scheme.stem file = name
  · have again : ∃ file ∈ others, Scheme.stem file = name := by
      simpa only [same.mem_iff] using claimed
    rcases exists_isLast claimed with ⟨file, last⟩
    rcases exists_isLast again with ⟨other, latest⟩
    rw [get?_withFiles_of_isLast last, get?_withFiles_of_isLast latest,
      one file last.mem.1 other (same.mem_iff.mpr latest.mem.1) last.mem.2 latest.mem.2]
  · have absent : ∀ file ∈ files, Scheme.stem file ≠ name := by simpa using claimed
    rw [get?_withFiles_of_absent absent, get?_withFiles_of_absent fun file member =>
      absent file (same.mem_iff.mpr member)]

/-- Two listings of a directory in different orders give the same number and the same names,
and the same scheme under every name that no two of the files claim. Under the others the
last file of each listing counts. -/
theorem load_perm (store : SchemeStore) (storage : Path → Except Failure String)
    (directory : Path) {entries others : List ListingEntry}
    (same : entries.Perm others)
    (readable : ¬ Scheme.Unreadable storage directory (.ok entries)) :
    ∃ count after later,
      store.load storage directory (.ok entries) = (.ok count, after) ∧
      store.load storage directory (.ok others) = (.ok count, later) ∧
      store.loadTogether storage directory (.ok entries) = (.ok count, after) ∧
      store.loadTogether storage directory (.ok others) = (.ok count, later) ∧
      (∀ name, after.contains name = later.contains name) ∧
      (∀ name, (∀ file ∈ Scheme.filesOf entries, ∀ other ∈ Scheme.filesOf entries,
          Scheme.stem file = name → Scheme.stem other = name → file = other) →
        after.get? name = later.get? name) ∧
      ∀ name file,
        (IsLast (fun file => Scheme.stem file = name) (Scheme.filesOf entries) file →
          after.get? name = some (Scheme.ofFile storage directory file)) ∧
        (IsLast (fun file => Scheme.stem file = name) (Scheme.filesOf others) file →
          later.get? name = some (Scheme.ofFile storage directory file)) := by
  have files := Scheme.perm_filesOf same
  have again := Scheme.readable_of_perm same readable
  refine ⟨_, _, store.withFiles storage directory (Scheme.filesOf others),
    load_of_readable readable store, ?_, loadTogether_of_readable readable store, ?_, ?_,
    fun name one => get?_withFiles_of_perm files one store,
    fun name file => ⟨fun last => get?_withFiles_of_isLast last store,
      fun last => get?_withFiles_of_isLast last store⟩⟩
  · rw [load_of_readable again, files.length_eq]
  · rw [loadTogether_of_readable again, files.length_eq]
  · intro name
    simp only [contains_withFiles, files.mem_iff]

/-! Files that give their paths. -/

private def paths (path : Path) : Except Failure String := .ok path.text

private theorem readable_paths (files : List String) :
    ¬ Scheme.Unreadable paths ⟨"schemes"⟩ (.ok (files.map fun file => .ok (some file))) := by
  refine Scheme.readable_of_legible fun entry member => ?_
  rcases List.mem_map.mp member with ⟨file, -, rfl⟩
  exact fun _ => ⟨_, rfl⟩

/-- Two files claim `main`, and one claims `admin`. -/
theorem load_perm_of_versions :
    let entries : List ListingEntry :=
      [.ok (some "main.html"), .ok (some "admin.html"), .ok (some "main.v2.html")]
    entries.Perm entries.reverse ∧ ¬ Scheme.Unreadable paths ⟨"schemes"⟩ (.ok entries) ∧
      ∃ count after later,
        empty.load paths ⟨"schemes"⟩ (.ok entries) = (.ok count, after) ∧
        empty.load paths ⟨"schemes"⟩ (.ok entries.reverse) = (.ok count, later) ∧
        after.get? "admin" = later.get? "admin" ∧
        after.get? "main" = some ⟨"main", ⟨"schemes/main.v2.html"⟩, "schemes/main.v2.html"⟩ ∧
        later.get? "main" = some ⟨"main", ⟨"schemes/main.html"⟩, "schemes/main.html"⟩ := by
  intro entries
  have readable : ¬ Scheme.Unreadable paths ⟨"schemes"⟩ (.ok entries) :=
    readable_paths ["main.html", "admin.html", "main.v2.html"]
  have files : Scheme.filesOf entries = ["main.html", "admin.html", "main.v2.html"] := by
    decide +kernel
  have reversed : Scheme.filesOf entries.reverse =
      ["main.v2.html", "admin.html", "main.html"] := by decide +kernel
  have turned : entries.Perm entries.reverse := entries.reverse_perm.symm
  rcases load_perm empty paths ⟨"schemes"⟩ turned readable with
    ⟨count, after, later, first, second, -, -, -, one, last⟩
  rw [files] at one last
  rw [reversed] at last
  have found := (last "main" "main.v2.html").1
    ⟨["main.html", "admin.html"], [], rfl, by decide +kernel, nofun⟩
  have foundLater := (last "main" "main.html").2
    ⟨["main.v2.html", "admin.html"], [], rfl, by decide +kernel, nofun⟩
  exact ⟨turned, readable, count, after, later, first, second, one "admin" (by decide +kernel),
    found.trans (by decide +kernel), foundLater.trans (by decide +kernel)⟩

/-- The order of a listing can be told from the store that it leaves. -/
theorem load_shows_order :
    ¬ ∀ (store : SchemeStore) (storage : Path → Except Failure String) (directory : Path)
        (entries others : List ListingEntry), entries.Perm others →
      ¬ Scheme.Unreadable storage directory (.ok entries) →
        (store.load storage directory (.ok entries)).1 =
            (store.load storage directory (.ok others)).1 ∧
          ∀ name, (store.load storage directory (.ok entries)).2.get? name =
            (store.load storage directory (.ok others)).2.get? name := by
  intro free
  have equal := (free empty paths ⟨"schemes"⟩
    [.ok (some "main.html"), .ok (some "main.v2.html")]
    [.ok (some "main.v2.html"), .ok (some "main.html")] (.swap _ _ _)
    (readable_paths ["main.html", "main.v2.html"])).2 "main"
  revert equal
  decide +kernel

end SchemeStore

end PageTemplates
