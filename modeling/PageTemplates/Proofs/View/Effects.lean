import PageTemplates.Proofs.Text.Lines
import PageTemplates.Proofs.View.Log
import PageTemplates.Storage.Table
import PageTemplates.View

/-! # What a load does

A load that is refused does nothing. Any other one asks for the modification time of the
file, reads the file only if nothing fresh is kept, and keeps what it has read. A call that
fails leaves everything that is kept as it was, and only the first load that is not refused
tries to watch the directory.
-/

namespace PageTemplates.Views

open Storage (Traced)

variable {World : Type}

/-! ## One load -/

def fileError (path : Path) (failure : Failure) : RenderError :=
  if failure.kind = .notFound then .viewNotFound path else .unreadableView path failure

theorem ofFailure_eq_fileError (path : Path) (failure : Failure) :
    RenderError.ofFailure path failure = fileError path failure := by
  unfold RenderError.ofFailure fileError
  cases failure.kind <;> rfl

/-- What a load of the file `path` answers, changes and calls. -/
structure Effects (storage : Storage World) (root path : Path) (views : Views)
    (state : Traced World) (outcome : Except RenderError String × Views × Traced World) :
    Prop where
  watches : outcome.2.1.watches =
    views.watches.ensure root (storage.canWatch root state.world)
  settings : outcome.2.1.root? = views.root? ∧
    outcome.2.1.cache.lifetime = views.cache.lifetime
  undated : ∀ failure dated,
    storage.modified path state.world = (.error failure, dated) →
    outcome.1 = .error (fileError path failure) ∧
      outcome.2.1.cache = views.cache ∧
      outcome.2.2 = ⟨dated, state.calls ++ [.modified path]⟩
  fresh : ∀ time dated content,
    storage.modified path state.world = (.ok time, dated) →
    views.cache.fresh? path time (storage.clock dated) = some content →
    outcome.1 = .ok content ∧
      outcome.2.1.cache = views.cache ∧
      outcome.2.2 = ⟨dated, state.calls ++ [.modified path]⟩
  unread : ∀ time dated failure later,
    storage.modified path state.world = (.ok time, dated) →
    views.cache.fresh? path time (storage.clock dated) = none →
    storage.read path dated = (.error failure, later) →
    outcome.1 = .error (fileError path failure) ∧
      outcome.2.1.cache = views.cache ∧
      outcome.2.2 = ⟨later, state.calls ++ [.modified path, .read path]⟩
  read : ∀ time dated text later,
    storage.modified path state.world = (.ok time, dated) →
    views.cache.fresh? path time (storage.clock dated) = none →
    storage.read path dated = (.ok text, later) →
    let content := String.ofList (Text.withoutPairedReturns text.toList)
    outcome.1 = .ok content ∧
      (∀ file, Dictionary.get? outcome.2.1.cache.entries file =
        if path.components = file then some ⟨content, time, storage.clock later⟩
        else Dictionary.get? views.cache.entries file) ∧
      outcome.2.2 = ⟨later, state.calls ++ [.modified path, .read path]⟩

theorem watchRoot_of_root {root : Path} {views : Views} (configured : views.root? = some root)
    (storage : Storage World) (world : World) :
    views.watchRoot storage world =
      { views with watches := views.watches.ensure root (storage.canWatch root world) } := by
  rw [watchRoot, configured]

theorem fetch_settings (storage : Storage World) (path : Path) (views : Views)
    (world : World) :
    let after := (fetch storage path views world).2.1
    after.root? = views.root? ∧ after.watches = views.watches ∧
      after.cache.lifetime = views.cache.lifetime := by
  unfold fetch
  split
  · exact ⟨rfl, rfl, rfl⟩
  · split
    · exact ⟨rfl, rfl, rfl⟩
    · split <;> exact ⟨rfl, rfl, rfl⟩

theorem fetch_effects (storage : Storage World) {root : Path} {views : Views}
    (configured : views.root? = some root) (path : Path) (state : Traced World) :
    Effects storage root path views state
      (fetch storage.traced path (views.watchRoot storage.traced state) state) := by
  rw [watchRoot_of_root configured]
  have settings := fetch_settings storage.traced path
    { views with
      watches := views.watches.ensure root (storage.canWatch root state.world) } state
  refine ⟨settings.2.1, ⟨settings.1, settings.2.2⟩, ?undated, ?fresh, ?unread, ?read⟩
  case undated =>
    intro failure dated asked
    simp [fetch, Storage.traced, asked, ofFailure_eq_fileError]
  case fresh =>
    intro time dated content asked fresh
    simp [fetch, Storage.traced, asked, fresh]
  case unread =>
    intro time dated failure later asked stale reread
    simp [fetch, Storage.traced, asked, stale, reread, ofFailure_eq_fileError]
  case read =>
    intro time dated text later asked stale reread
    simp [fetch, Storage.traced, asked, stale, reread, ViewCache.store, Text.normalizeLines_eq]

/-! ## Many loads -/

/-- What is done with views, and to the files between. -/
inductive Step (World : Type)
  | load (name : String)
  | touch (operation : ViewCache.Operation)
  | change (world : World)

namespace Step

def passes : Step World → Bool
  | .load name => (ViewName.refusal? name).isNone
  | .touch _ | .change _ => false

def perform (storage : Storage World) : Views × World → Step World → Views × World
  | (views, world), .load name => (views.load storage name world).2
  | (views, world), .touch operation =>
      ({ views with cache := views.cache.after operation }, world)
  | (views, _), .change world => (views, world)

def performAll (storage : Storage World) (start : Views × World) (steps : List (Step World)) :
    Views × World :=
  steps.foldl (perform storage) start

end Step

/-- The directories that views have tried to watch: the root, once a load has passed. -/
def tried (root? : Option Path) (enabled passed : Bool) : List (List Component) :=
  if enabled && passed then (root?.map Path.components).toList else []

/-- What views have of their settings and have tried to watch. -/
structure Watches (root? : Option Path) (enabled passed : Bool) (views : Views) : Prop where
  root : views.root? = root?
  allowed : views.watches.enabled = enabled
  attempts : Dictionary.keys views.watches.attempts = tried root? enabled passed

section

variable {root? : Option Path} {enabled passed : Bool} {views : Views}

/-- The first load that passes tries to watch the root, and no later one does. -/
theorem Watches.ensure {root : Path} (watches : Watches (some root) enabled passed views)
    (canWatch : Bool) :
    (views.watches.ensure root canWatch).enabled = enabled ∧
      Dictionary.keys (views.watches.ensure root canWatch).attempts =
        tried (some root) enabled true := by
  have allowed := watches.allowed
  have attempts := watches.attempts
  unfold WatchRegistry.ensure
  cases enabled with
  | false => simpa [allowed, tried] using attempts
  | true =>
      cases passed with
      | false =>
          have none : views.watches.attempts = [] := List.map_eq_nil_iff.mp attempts
          simp [allowed, none, Dictionary.has, Dictionary.put, Dictionary.keys, tried]
      | true =>
          have known : Dictionary.has views.watches.attempts root.components = true := by
            rw [Dictionary.has_eq_true, ← Dictionary.mem_keys, attempts]
            simp [tried]
          simpa [allowed, known] using attempts

theorem Watches.perform (watches : Watches root? enabled passed views)
    (storage : Storage World) (world : World) (step : Step World) :
    Watches root? enabled (passed || step.passes)
      (Step.perform storage (views, world) step).1 := by
  cases step with
  | touch | change =>
      rw [Step.passes, Bool.or_false]
      exact ⟨watches.root, watches.allowed, watches.attempts⟩
  | load name =>
      rw [Step.perform, load, pathOf, watches.root]
      cases root? with
      | none =>
          refine ⟨watches.root, watches.allowed, ?_⟩
          rw [watches.attempts]
          simp [tried]
      | some root =>
          dsimp only
          cases refused : ViewName.refusal? name with
          | some error =>
              rw [Step.passes, refused, Option.isNone_some, Bool.or_false]
              exact watches
          | none =>
              have settings := fetch_settings storage (root.join ⟨name ++ ending⟩)
                (views.watchRoot storage world) world
              have ensured := watches.ensure (storage.canWatch root world)
              rw [watchRoot_of_root watches.root] at settings ⊢
              rw [Step.passes, refused, Option.isNone_none, Bool.or_true]
              refine ⟨settings.1.trans watches.root, ?_, ?_⟩
              · exact (congrArg WatchRegistry.enabled settings.2.1).trans ensured.1
              · exact (congrArg (fun registry => Dictionary.keys registry.attempts)
                  settings.2.1).trans ensured.2

theorem Watches.performAll (watches : Watches root? enabled passed views)
    (storage : Storage World) (world : World) (steps : List (Step World)) :
    Watches root? enabled (passed || steps.any Step.passes)
      (Step.performAll storage (views, world) steps).1 := by
  induction steps generalizing passed views world with
  | nil => rwa [List.any_nil, Bool.or_false]
  | cons step rest induction =>
      rw [List.any_cons, ← Bool.or_assoc]
      exact induction (watches.perform storage world step) _

end

def fresh (root? : Option Path) (lifetime : Nat) (watch : Bool) : Views :=
  ⟨root?, .empty lifetime, .empty watch⟩

theorem watches_fresh (root? : Option Path) (lifetime : Nat) (watch : Bool) :
    Watches root? watch false (fresh root? lifetime watch) := by
  refine ⟨rfl, rfl, ?_⟩
  rw [tried, Bool.and_false]
  rfl

/-! ## All effects -/

/-- Without a root, and for a name that is refused, a load answers with that error and does
nothing else. Any other load has the effects of a load of the file of its name. Over any run
there is one attempt to watch, if watching is enabled, there is a root and some load was not
refused, and else there is none. -/
theorem load_effects (storage : Storage World) :
    (∀ (views : Views) (name : String) (state : Traced World), views.root? = none →
      views.load storage.traced name state = (.error .missingViewsDirectory, views, state)) ∧
    (∀ (views : Views) (name : String) (state : Traced World) (root : Path)
        (error : RenderError),
      views.root? = some root → ViewName.refusal? name = some error →
      views.load storage.traced name state = (.error error, views, state)) ∧
    (∀ (views : Views) (name : String) (state : Traced World) (root : Path),
      views.root? = some root → ViewName.refusal? name = none →
      Effects storage root (root.join ⟨name ++ ".html"⟩) views state
        (views.load storage.traced name state)) ∧
    ∀ (root? : Option Path) (lifetime : Nat) (watch : Bool) (world : World)
        (steps : List (Step World)),
      (Step.performAll storage (fresh root? lifetime watch, world) steps).1.watches.attempted =
        if watch && root?.isSome && steps.any Step.passes then 1 else 0 := by
  refine ⟨?_, ?_, ?_, ?_⟩
  · intro views name state unset
    rw [load, pathOf, unset]
  · intro views name state root error configured refused
    simp only [load, pathOf, configured, refused]
  · intro views name state root configured accepted
    simp only [load, pathOf, configured, accepted]
    exact fetch_effects storage configured _ state
  · intro root? lifetime watch world steps
    have watches := (watches_fresh root? lifetime watch).performAll storage world steps
    have attempts := congrArg List.length watches.attempts
    rw [Bool.false_or, Dictionary.keys, List.length_map] at attempts
    rw [WatchRegistry.attempted, attempts, tried]
    cases root? <;> cases watch <;> cases steps.any Step.passes <;> rfl

/-! A file that is older where it is kept, and cannot be read any more. -/

def staleViews : Views :=
  { fresh (some ⟨"/v"⟩) 1000 true with
    cache := (ViewCache.empty 1000).store ⟨"/v/a.html"⟩ "old" 1 0 }

def brokenFiles : FileTable :=
  FileTable.empty.write ⟨"/v/a.html"⟩ ⟨"new", 2, some (.read, ⟨.other, "broken"⟩)⟩

theorem load_effects_broken :
    staleViews.root? = some ⟨"/v"⟩ ∧ ViewName.refusal? "a" = none ∧
      (staleViews.load FileTable.storage.traced "a" ⟨brokenFiles, []⟩).1 =
        .error (.unreadableView ⟨"/v/a.html"⟩ ⟨.other, "broken"⟩) ∧
      (staleViews.load FileTable.storage.traced "a" ⟨brokenFiles, []⟩).2.1.cache =
        staleViews.cache ∧
      (staleViews.load FileTable.storage.traced "a" ⟨brokenFiles, []⟩).2.2.calls =
        [.modified ⟨"/v/a.html"⟩, .read ⟨"/v/a.html"⟩] ∧
      (Step.performAll FileTable.storage (fresh (some ⟨"/v"⟩) 1000 true, brokenFiles)
        [.load "..", .load "a", .load "a"]).1.watches.attempted = 1 := by
  have accepted : ViewName.refusal? "a" = none := by decide +kernel
  have effects := (load_effects FileTable.storage).2.2.1 staleViews "a" ⟨brokenFiles, []⟩
    ⟨"/v"⟩ rfl accepted
  have unread := effects.unread 2 brokenFiles ⟨.other, "broken"⟩ brokenFiles
    rfl (by decide +kernel) rfl
  have attempted := (load_effects FileTable.storage).2.2.2 (some ⟨"/v"⟩) 1000 true brokenFiles
    [.load "..", .load "a", .load "a"]
  refine ⟨rfl, accepted, unread.1, unread.2.1, ?_, attempted.trans (by decide +kernel)⟩
  rw [unread.2.2]
  rfl

end PageTemplates.Views
