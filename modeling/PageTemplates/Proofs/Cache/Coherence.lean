import PageTemplates.Proofs.Dictionary
import PageTemplates.Proofs.Render.Fixed

/-! # Coherent caches

Where reading a file changes no file, and the modification time of a file tells what it
holds, a kept view is what would be read again, and a kept template is what would be
compiled again. Loading and compiling keep both caches so.
-/

namespace PageTemplates

variable {World : Type}

/-! ## Files that stay -/

namespace Storage

/-- Two worlds in which every file is the same to both calls. -/
structure SameFiles (storage : Storage World) (one other : World) : Prop where
  modified : ∀ path, (storage.modified path one).1 = (storage.modified path other).1
  read : ∀ path, (storage.read path one).1 = (storage.read path other).1

theorem SameFiles.refl {storage : Storage World} (world : World) :
    storage.SameFiles world world :=
  ⟨fun _ => rfl, fun _ => rfl⟩

theorem SameFiles.trans {storage : Storage World} {one other third : World}
    (first : storage.SameFiles one other) (second : storage.SameFiles other third) :
    storage.SameFiles one third :=
  ⟨fun path => (first.modified path).trans (second.modified path),
    fun path => (first.read path).trans (second.read path)⟩

/-- A storage whose files are not changed by its own calls. Time may pass in them. -/
structure Steady (storage : Storage World) : Prop where
  modified : ∀ path world, storage.SameFiles world (storage.modified path world).2
  read : ∀ path world, storage.SameFiles world (storage.read path world).2

/-- What reading a path of a modification time yields, the path given by its components. -/
abbrev Contents := List Component → Time → Except Failure String

/-- In this world reading a file yields what `contents` has for its modification time. -/
def Dated (storage : Storage World) (contents : Contents) (world : World) : Prop :=
  ∀ path time, (storage.modified path world).1 = .ok time →
    (storage.read path world).1 = contents path.components time

theorem Dated.of_sameFiles {storage : Storage World} {contents : Contents}
    {one other : World} (dated : storage.Dated contents one)
    (same : storage.SameFiles one other) : storage.Dated contents other := by
  intro path time modified
  rw [← same.read]
  exact dated path time ((same.modified path).trans modified)

end Storage

/-! ## Kept templates -/

namespace TemplateCache

/-- Every kept template is the compilation of its source. -/
def Faithful (cache : TemplateCache) : Prop :=
  ∀ source compiled, Dictionary.get? cache.entries source = some compiled →
    compiled.template = Template.compile source

theorem faithful_empty : empty.Faithful := nofun

theorem Faithful.clear (cache : TemplateCache) : cache.clear.Faithful := nofun

theorem Faithful.get {cache : TemplateCache} (faithful : cache.Faithful) (source : String) :
    (cache.get source).1.template = Template.compile source ∧
      (cache.get source).2.Faithful := by
  unfold TemplateCache.get
  cases kept : Dictionary.get? cache.entries source with
  | some compiled => exact ⟨faithful source compiled kept, faithful⟩
  | none => exact ⟨rfl, Dictionary.forall_get?_put faithful rfl⟩

end TemplateCache

/-! ## Kept views -/

namespace ViewCache

/-- Every kept view has the content of its file at the time it is kept under. -/
def Coherent (contents : Storage.Contents) (cache : ViewCache) : Prop :=
  ∀ components kept, Dictionary.get? cache.entries components = some kept →
    ∃ text, contents components kept.modified = .ok text ∧
      kept.content = Text.normalizeLines text

variable {contents : Storage.Contents} {cache : ViewCache}

/-- Fresh content is the content of the view that is kept for the path and the time. -/
theorem exists_kept_of_fresh? {path : Path} {time : Time} {now : Nat} {content : String}
    (fresh : cache.fresh? path time now = some content) :
    ∃ kept, Dictionary.get? cache.entries path.components = some kept ∧
      kept.modified = time ∧ kept.content = content := by
  unfold fresh? at fresh
  cases found : Dictionary.get? cache.entries path.components with
  | none => simp [found] at fresh
  | some kept =>
      simp only [found, Option.ite_none_right_eq_some, Bool.and_eq_true,
        decide_eq_true_eq, Option.some.injEq] at fresh
      exact ⟨kept, rfl, fresh.1.1, fresh.2⟩

theorem coherent_empty (lifetime : Nat) : (empty lifetime).Coherent contents := nofun

theorem Coherent.clear : cache.clear.Coherent contents := nofun

theorem Coherent.filter (coherent : cache.Coherent contents)
    (accepts : List Component → Bool) :
    Coherent contents { cache with
      entries := cache.entries.filter fun entry => accepts entry.1 } :=
  Dictionary.forall_get?_filter coherent accepts

theorem Coherent.invalidate (coherent : cache.Coherent contents) (path : Path) :
    (cache.invalidate path).2.Coherent contents :=
  coherent.filter fun components => !(components == path.components)

theorem Coherent.invalidateUnder (coherent : cache.Coherent contents) (directory : Path) :
    (cache.invalidateUnder directory).Coherent contents :=
  coherent.filter fun components => !directory.covers components

theorem Coherent.store (coherent : cache.Coherent contents) {path : Path} {time : Time}
    {text : String} (holds : contents path.components time = .ok text) (now : Nat) :
    (cache.store path (Text.normalizeLines text) time now).Coherent contents :=
  Dictionary.forall_get?_put coherent ⟨text, holds, rfl⟩

theorem Coherent.content_of_fresh? (coherent : cache.Coherent contents) {path : Path}
    {time : Time} {now : Nat} {content : String}
    (fresh : cache.fresh? path time now = some content) :
    ∃ text, contents path.components time = .ok text ∧
      content = Text.normalizeLines text := by
  rcases exists_kept_of_fresh? fresh with ⟨kept, found, rfl, rfl⟩
  exact coherent path.components kept found

end ViewCache

/-! ## Loading -/

namespace Views

/-- The content of a file as the storage has it in this world. -/
def currentFile (storage : Storage World) (path : Path) (world : World) :
    Except RenderError String :=
  match (storage.modified path world).1 with
  | .error failure => .error (.ofFailure path failure)
  | .ok _ =>
      match (storage.read path world).1 with
      | .error failure => .error (.ofFailure path failure)
      | .ok text => .ok (Text.normalizeLines text)

/-- The content of the view of a name as the storage has it in this world. -/
def current (storage : Storage World) (views : Views) (name : String) (world : World) :
    Except RenderError String :=
  (views.pathOf name).bind fun path => currentFile storage path world

theorem current_congr {storage : Storage World} {views others : Views} {one other : World}
    (root : views.root? = others.root?) (files : storage.SameFiles one other)
    (name : String) : views.current storage name one = others.current storage name other := by
  have paths : views.pathOf name = others.pathOf name := by
    unfold pathOf
    rw [root]
  have contents : ∀ path, currentFile storage path one = currentFile storage path other := by
    intro path
    unfold currentFile
    rw [files.modified, files.read]
  unfold current
  rw [paths, funext contents]

variable {storage : Storage World} {contents : Storage.Contents}

/-- What holds after a file is fetched or a view is loaded. -/
structure Kept (storage : Storage World) (contents : Storage.Contents) (before : Views)
    (world : World) (after : Views) (later : World) : Prop where
  root : after.root? = before.root?
  coherent : after.cache.Coherent contents
  files : storage.SameFiles world later

theorem fetch_eq_currentFile (steady : storage.Steady) {views : Views} {world : World}
    (coherent : views.cache.Coherent contents) (dated : storage.Dated contents world)
    (path : Path) :
    (fetch storage path views world).1 = currentFile storage path world ∧
      Kept storage contents views world (fetch storage path views world).2.1
        (fetch storage path views world).2.2 := by
  have asked := steady.modified path world
  have dated := dated path
  unfold fetch currentFile
  generalize storage.modified path world = answer at asked dated ⊢
  rcases answer with ⟨outcome, next⟩
  cases outcome with
  | error failure => exact ⟨rfl, rfl, coherent, asked⟩
  | ok time =>
      have dated := dated time rfl
      dsimp only
      cases fresh : views.cache.fresh? path time (storage.clock next) with
      | some content =>
          rcases coherent.content_of_fresh? fresh with ⟨text, holds, rfl⟩
          rw [dated, holds]
          exact ⟨rfl, rfl, coherent, asked⟩
      | none =>
          have reread := steady.read path next
          have files := asked.trans reread
          rw [asked.read path] at dated ⊢
          dsimp only
          generalize storage.read path next = answer at files dated ⊢
          rcases answer with ⟨outcome, later⟩
          cases outcome with
          | error failure => exact ⟨rfl, rfl, coherent, files⟩
          | ok text => exact ⟨rfl, rfl, coherent.store dated.symm _, files⟩

theorem load_eq_current (steady : storage.Steady) {views : Views} {world : World}
    (coherent : views.cache.Coherent contents) (dated : storage.Dated contents world)
    (name : String) :
    (views.load storage name world).1 = views.current storage name world ∧
      Kept storage contents views world (views.load storage name world).2.1
        (views.load storage name world).2.2 := by
  unfold load current
  cases views.pathOf name with
  | error problem => exact ⟨rfl, rfl, coherent, .refl world⟩
  | ok path =>
      have watched : (views.watchRoot storage world).cache.Coherent contents := by
        simpa using coherent
      have fetched := fetch_eq_currentFile steady watched dated path
      exact ⟨fetched.1, fetched.2.root.trans (by simp), fetched.2.coherent, fetched.2.files⟩

end Views

/-! ## Sessions -/

/-- A session with coherent caches that began with the views `start` in `world`. -/
structure Session.Coherent (storage : Storage World) (contents : Storage.Contents)
    (start : Views) (world : World) (session : Session World) : Prop where
  templates : session.templates.Faithful
  views : session.views.cache.Coherent contents
  root : session.views.root? = start.root?
  files : storage.SameFiles world session.world

/-- Loads from coherent caches come out as the storage has the files in this world. -/
theorem Session.Coherent.fixes {storage : Storage World} {contents : Storage.Contents}
    (steady : storage.Steady) (start : Views) {world : World}
    (dated : storage.Dated contents world) :
    Render.Fixes storage (fun name => start.current storage name world)
      (Session.Coherent storage contents start world) where
  load := by
    intro name session coherent
    have loaded := Views.load_eq_current steady coherent.views
      (dated.of_sameFiles coherent.files) name
    refine ⟨?_, coherent.templates, loaded.2.coherent, loaded.2.root.trans coherent.root,
      coherent.files.trans loaded.2.files⟩
    exact loaded.1.trans (Views.current_congr coherent.root.symm coherent.files name).symm
  compile := by
    intro source session coherent
    have compiled := coherent.templates.get source
    exact ⟨compiled.1, compiled.2, coherent.views, coherent.root, coherent.files⟩

end PageTemplates
