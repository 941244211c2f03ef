import Mathlib.Data.List.Basic
import Mathlib.Logic.Function.Iterate
import PageTemplates.Proofs.Cache.Coherence
import PageTemplates.Proofs.View.Journal

/-! # Loads that race with writes

A load is told the modification time of a file first and reads the file only then. If the
file is written in between, the new content is kept under the old time. No load takes it for
fresh: the file has another time now and never has the old one again. So a load that begins
after the last write to a file answers with what was written, however loads, writes and
invalidations follow one another.
-/

namespace PageTemplates

variable {World : Type}

/-! ## Loads step by step

Between two steps of a load anything may happen to the views and to the files.
-/

inductive Progress
  | begun
  /-- The name leads to a file, and the directory of the views is watched. -/
  | accepted (path : Path)
  | dated (path : Path) (modified : Time)
  | missed (path : Path) (modified : Time)
  | read (path : Path) (modified : Time) (content : String)
  | finished (result : Except RenderError String)
  deriving DecidableEq

namespace Progress

def advance (storage : Storage World) (name : String) :
    Progress × Views × World → Progress × Views × World
  | (.begun, views, world) =>
      match views.pathOf name with
      | .error error => (.finished (.error error), views, world)
      | .ok path => (.accepted path, views.watchRoot storage world, world)
  | (.accepted path, views, world) =>
      match storage.modified path world with
      | (.error failure, world) => (.finished (.error (.ofFailure path failure)), views, world)
      | (.ok modified, world) => (.dated path modified, views, world)
  | (.dated path modified, views, world) =>
      match views.cache.fresh? path modified (storage.clock world) with
      | some content => (.finished (.ok content), views, world)
      | none => (.missed path modified, views, world)
  | (.missed path modified, views, world) =>
      match storage.read path world with
      | (.error failure, world) => (.finished (.error (.ofFailure path failure)), views, world)
      | (.ok text, world) => (.read path modified (Text.normalizeLines text), views, world)
  | (.read path modified content, views, world) =>
      let cache := views.cache.store path content modified (storage.clock world)
      (.finished (.ok content), { views with cache := cache }, world)
  | (.finished result, views, world) => (.finished result, views, world)

theorem iterate_advance (storage : Storage World) (name : String) (views : Views)
    (world : World) :
    (advance storage name)^[5] (.begun, views, world) =
      (.finished (views.load storage name world).1, (views.load storage name world).2) := by
  simp only [Function.iterate_succ, Function.iterate_zero, Function.comp_apply, id_eq]
  rw [Views.load, advance]
  cases views.pathOf name with
  | error error => rfl
  | ok path =>
      dsimp only
      rw [Views.fetch, advance]
      rcases storage.modified path world with ⟨failure | modified, next⟩
      · rfl
      · dsimp only
        rw [advance]
        cases (views.watchRoot storage world).cache.fresh? path modified
            (storage.clock next) with
        | some content => rfl
        | none =>
            dsimp only
            rw [advance]
            rcases storage.read path next with ⟨failure | text, later⟩
            · rfl
            · rfl

end Progress

/-! ## Loads among other events -/

/-- A load, with the writes that were made since it began. -/
structure Load where
  name : String
  since : List Write
  progress : Progress
  deriving DecidableEq

structure System where
  views : Views
  journal : Journal
  loads : List Load

inductive Event
  | begin (name : String)
  /-- The next step of the load with this number. -/
  | proceed (index : Nat)
  | write (write : Write)
  | invalidate (path : Path)
  | invalidateUnder (directory : Path)
  | clear
  | disturb (failure? : FailingCall → Path → Option Failure) (clock : Nat)

namespace System

def withCache (system : System) (cache : ViewCache) : System :=
  { system with views := { system.views with cache := cache } }

/-- What an event changes. There is no write with a time that its file has or has had. -/
def after (system : System) : Event → System
  | .begin name => { system with loads := system.loads ++ [⟨name, [], .begun⟩] }
  | .proceed index =>
      match system.loads[index]? with
      | none => system
      | some load =>
          let (progress, views, journal) :=
            Progress.advance Journal.storage load.name
              (load.progress, system.views, system.journal)
          ⟨views, journal, system.loads.set index { load with progress := progress }⟩
  | .write write =>
      if Write.Used system.journal.writes write.path.components write.modified then
        system
      else
        { system with
          journal := { system.journal with writes := write :: system.journal.writes }
          loads := system.loads.map fun load => { load with since := write :: load.since } }
  | .invalidate path => system.withCache (system.views.cache.invalidate path).2
  | .invalidateUnder directory =>
      system.withCache (system.views.cache.invalidateUnder directory)
  | .clear => system.withCache system.views.cache.clear
  | .disturb failure? clock =>
      { system with
        journal := { system.journal with failure? := failure?, clock := clock } }

def afterAll (system : System) (events : List Event) : System :=
  events.foldl after system

def start (root? : Option Path) (lifetime : Nat) (watches : WatchRegistry)
    (journal : Journal) : System :=
  ⟨⟨root?, .empty lifetime, watches⟩, journal, []⟩

end System

/-! ## What times tell -/

namespace Write

/-- Content that goes with a time of a file: if the last write to the file has that time,
it wrote the content. -/
structure Vouched (writes : List Write) (file : List Component) (time : Time)
    (content : String) : Prop where
  used : Used writes file time
  latest : ∀ write, last? writes file = some write → write.modified = time →
    content = Text.normalizeLines write.content

/-- The last write to a file, if none has been made since. -/
def LastUnlessSince (writes since : List Write) (file : List Component)
    (accepts : Write → Prop) : Prop :=
  (∀ write ∈ since, write.path.components ≠ file) →
    ∃ write, last? writes file = some write ∧ accepts write

variable {writes since : List Write} {file : List Component} {time : Time} {content : String}

theorem Vouched.cons (vouched : Vouched writes file time content) {write : Write}
    (unused : ¬ Used writes write.path.components write.modified) :
    Vouched (write :: writes) file time content where
  used := vouched.used.cons write
  latest last isLast sameTime := by
    by_cases same : write.path.components = file
    · -- The new write has a time that its file never had, so nothing is kept under it.
      subst same
      rw [last?_cons_self] at isLast
      cases isLast
      rw [sameTime] at unused
      exact absurd vouched.used unused
    · rw [last?_cons_of_ne same] at isLast
      exact vouched.latest last isLast sameTime

theorem LastUnlessSince.cons {accepts : Write → Prop}
    (last : LastUnlessSince writes since file accepts) (write : Write) :
    LastUnlessSince (write :: writes) (write :: since) file accepts := by
  intro spared
  rw [List.forall_mem_cons] at spared
  rw [last?_cons_of_ne spared.1]
  exact last spared.2

end Write

/-- What a load knows when it has come so far, where its name leads to `target`. -/
def Progress.Holds (writes since : List Write) (target : Except RenderError Path) :
    Progress → Prop
  | .begun => True
  | .accepted path => target = .ok path
  | .dated path time | .missed path time =>
      target = .ok path ∧ Write.Used writes path.components time ∧
        Write.LastUnlessSince writes since path.components (·.modified = time)
  | .read path time content =>
      target = .ok path ∧ Write.Vouched writes path.components time content ∧
        Write.LastUnlessSince writes since path.components
          (content = Text.normalizeLines ·.content)
  | .finished (.error _) => True
  | .finished (.ok content) =>
      ∃ path, target = .ok path ∧
        Write.LastUnlessSince writes since path.components
          (content = Text.normalizeLines ·.content)

def ViewCache.Vouched (writes : List Write) (cache : ViewCache) : Prop :=
  ∀ file kept, Dictionary.get? cache.entries file = some kept →
    Write.Vouched writes file kept.modified kept.content

theorem Progress.Holds.cons {writes since : List Write} {target : Except RenderError Path}
    {progress : Progress} (holds : progress.Holds writes since target) {write : Write}
    (unused : ¬ Write.Used writes write.path.components write.modified) :
    progress.Holds (write :: writes) (write :: since) target := by
  cases progress with
  | begun => trivial
  | accepted path => exact holds
  | dated | missed =>
      exact ⟨holds.1, holds.2.1.cons write, holds.2.2.cons write⟩
  | read => exact ⟨holds.1, holds.2.1.cons unused, holds.2.2.cons write⟩
  | finished result =>
      cases result with
      | error => trivial
      | ok =>
          rcases holds with ⟨path, named, last⟩
          exact ⟨path, named, last.cons write⟩

theorem Views.pathOf_congr {views others : Views} (same : views.root? = others.root?)
    (name : String) : views.pathOf name = others.pathOf name := by
  rw [pathOf, pathOf, same]

structure Progress.Kept (writes since : List Write) (name : String) (views : Views)
    (journal : Journal) (later : Progress × Views × Journal) : Prop where
  holds : later.1.Holds writes since (views.pathOf name)
  cache : later.2.1.cache.Vouched writes
  root : later.2.1.root? = views.root?
  journal : later.2.2 = journal

theorem Progress.advance_kept {since : List Write} {name : String} {views : Views}
    {journal : Journal} {progress : Progress}
    (holds : progress.Holds journal.writes since (views.pathOf name))
    (cache : views.cache.Vouched journal.writes) :
    Kept journal.writes since name views journal
      (advance Journal.storage name (progress, views, journal)) := by
  cases progress with
  | begun =>
      rw [advance]
      cases named : views.pathOf name with
      | error => exact ⟨trivial, cache, rfl, rfl⟩
      | ok path =>
          exact ⟨named, by simpa using cache, by simp, rfl⟩
  | accepted path =>
      simp only [advance, Journal.storage]
      cases answered : journal.answer .modified path with
      | error => exact ⟨trivial, cache, rfl, rfl⟩
      | ok write =>
          have last := Journal.last?_of_answer answered
          exact ⟨⟨holds, Write.used_of_last? last, fun _ => ⟨write, last, rfl⟩⟩, cache, rfl, rfl⟩
  | dated path time =>
      rcases holds with ⟨named, used, last⟩
      rw [advance]
      cases fresh : views.cache.fresh? path time (Journal.storage.clock journal) with
      | none => exact ⟨⟨named, used, last⟩, cache, rfl, rfl⟩
      | some content =>
          rcases ViewCache.exists_kept_of_fresh? fresh with ⟨kept, found, sameTime, rfl⟩
          have vouched := cache path.components kept found
          refine ⟨⟨path, named, fun spared => ?_⟩, cache, rfl, rfl⟩
          rcases last spared with ⟨write, isLast, modified⟩
          exact ⟨write, isLast, vouched.latest write isLast (modified.trans sameTime.symm)⟩
  | missed path time =>
      rcases holds with ⟨named, used, last⟩
      simp only [advance, Journal.storage]
      cases answered : journal.answer .read path with
      | error => exact ⟨trivial, cache, rfl, rfl⟩
      | ok write =>
          have isLast := Journal.last?_of_answer answered
          refine ⟨⟨named, ⟨used, ?_⟩, fun _ => ⟨write, isLast, rfl⟩⟩, cache, rfl, rfl⟩
          intro other isOther _
          rw [isLast] at isOther
          cases isOther
          rfl
  | read path time content =>
      rcases holds with ⟨named, vouched, last⟩
      exact ⟨⟨path, named, last⟩, Dictionary.forall_get?_put cache vouched, rfl, rfl⟩
  | finished result => exact ⟨holds, cache, rfl, rfl⟩

theorem Progress.iterate_advance_kept {since : List Write} {name : String} {views : Views}
    {journal : Journal} {progress : Progress}
    (holds : progress.Holds journal.writes since (views.pathOf name))
    (cache : views.cache.Vouched journal.writes) (steps : Nat) :
    Kept journal.writes since name views journal
      ((advance Journal.storage name)^[steps] (progress, views, journal)) := by
  induction steps with
  | zero => exact ⟨holds, cache, rfl, rfl⟩
  | succ steps induction =>
      rw [Function.iterate_succ_apply']
      rcases induction with ⟨reached, vouched, root, unchanged⟩
      generalize (advance Journal.storage name)^[steps] (progress, views, journal) = later at *
      rcases later with ⟨reachedProgress, laterViews, laterJournal⟩
      cases unchanged
      rw [← Views.pathOf_congr root] at reached
      have next := advance_kept reached vouched
      exact ⟨Views.pathOf_congr root name ▸ next.holds, next.cache, next.root.trans root,
        next.journal⟩

namespace System

structure Coherent (system : System) : Prop where
  cache : system.views.cache.Vouched system.journal.writes
  loads : ∀ load ∈ system.loads,
    load.progress.Holds system.journal.writes load.since (system.views.pathOf load.name)

theorem coherent_start (root? : Option Path) (lifetime : Nat) (watches : WatchRegistry)
    (journal : Journal) : (start root? lifetime watches journal).Coherent :=
  ⟨nofun, nofun⟩

theorem Coherent.withCache {system : System} (coherent : system.Coherent) {cache : ViewCache}
    (vouched : cache.Vouched system.journal.writes) : (system.withCache cache).Coherent :=
  ⟨vouched, coherent.loads⟩

theorem Coherent.after {system : System} (coherent : system.Coherent) (event : Event) :
    (system.after event).Coherent := by
  cases event with
  | begin name =>
      refine ⟨coherent.cache, fun load member => ?_⟩
      rcases List.mem_append.mp member with member | member
      · exact coherent.loads load member
      · rw [List.mem_singleton.mp member]
        trivial
  | proceed index =>
      rw [System.after]
      cases found : system.loads[index]? with
      | none => exact coherent
      | some load =>
          have kept := Progress.advance_kept
            (coherent.loads load (List.mem_of_getElem? found)) coherent.cache
          dsimp only
          refine ⟨?_, fun other member => ?_⟩
          · rw [kept.journal]
            exact kept.cache
          · rw [kept.journal, Views.pathOf_congr kept.root]
            rcases List.mem_or_eq_of_mem_set member with member | rfl
            · exact coherent.loads other member
            · exact kept.holds
  | write write =>
      rw [System.after]
      split
      next => exact coherent
      next unused =>
        refine ⟨fun file kept found => (coherent.cache file kept found).cons unused, ?_⟩
        intro load member
        rcases List.mem_map.mp member with ⟨before, inside, rfl⟩
        exact (coherent.loads before inside).cons unused
  | invalidate path =>
      exact coherent.withCache (Dictionary.forall_get?_filter coherent.cache
        fun file => !(file == path.components))
  | invalidateUnder directory =>
      exact coherent.withCache (Dictionary.forall_get?_filter coherent.cache
        fun file => !directory.covers file)
  | clear => exact coherent.withCache nofun
  | disturb => exact ⟨coherent.cache, coherent.loads⟩

theorem Coherent.afterAll {system : System} (coherent : system.Coherent)
    (events : List Event) : (system.afterAll events).Coherent := by
  induction events generalizing system with
  | nil => exact coherent
  | cons event events induction => exact induction (coherent.after event)

end System

/-! ## The last write -/

/-- However loads, writes and invalidations follow one another, and for whatever lifetime of
what is kept: a load that succeeds answers with the content that the last write to its file
gave it, if the load began after that write. The same holds of a load in one piece. -/
theorem load_after_last_write (root? : Option Path) (lifetime : Nat) (watches : WatchRegistry)
    (journal : Journal) (events : List Event) :
    let system := (System.start root? lifetime watches journal).afterAll events
    (∀ load ∈ system.loads, ∀ content, load.progress = .finished (.ok content) →
      ∃ path, system.views.pathOf load.name = .ok path ∧
        ((∀ write ∈ load.since, write.path.components ≠ path.components) →
          ∃ write, Write.last? system.journal.writes path.components = some write ∧
            content = Text.normalizeLines write.content)) ∧
    ∀ name content, (system.views.load Journal.storage name system.journal).1 = .ok content →
      ∃ path, system.views.pathOf name = .ok path ∧
        ∃ write, Write.last? system.journal.writes path.components = some write ∧
          content = Text.normalizeLines write.content := by
  intro system
  have coherent := (System.coherent_start root? lifetime watches journal).afterAll events
  constructor
  · intro load member content finished
    have holds := coherent.loads load member
    rw [finished] at holds
    exact holds
  · intro name content loaded
    have begun : Progress.begun.Holds system.journal.writes [] (system.views.pathOf name) :=
      trivial
    have kept := Progress.iterate_advance_kept begun coherent.cache 5
    rw [Progress.iterate_advance, loaded] at kept
    rcases kept.holds with ⟨path, named, last⟩
    exact ⟨path, named, last nofun⟩

/-- The first load reads what was written after it was told the time, and keeps it under the
old time; the second one begins after that. -/
def raced : System :=
  (System.start (some ⟨"/v"⟩) 1000 (.empty false)
    ⟨[⟨⟨"/v/a.html"⟩, "one", 1⟩], fun _ _ => none, 0, fun _ => false⟩).afterAll
    [.begin "a", .proceed 0, .proceed 0, .write ⟨⟨"/v//a.html"⟩, "two\r\n", 2⟩, .proceed 0,
      .proceed 0, .proceed 0, .begin "a", .proceed 1, .proceed 1, .proceed 1, .proceed 1,
      .proceed 1]

theorem load_after_last_write_raced :
    ⟨"a", [], .finished (.ok "two\n")⟩ ∈ raced.loads ∧
      ∃ path, raced.views.pathOf "a" = .ok path ∧
        ∃ write, Write.last? raced.journal.writes path.components = some write ∧
          "two\n" = Text.normalizeLines write.content := by
  have member : ⟨"a", [], .finished (.ok "two\n")⟩ ∈ raced.loads := by decide +kernel
  rcases (load_after_last_write (some ⟨"/v"⟩) 1000 (.empty false) _ _).1 _ member _ rfl with
    ⟨path, named, written⟩
  exact ⟨member, path, named, written nofun⟩

end PageTemplates
