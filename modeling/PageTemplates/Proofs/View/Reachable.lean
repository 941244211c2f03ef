import PageTemplates.Proofs.Cache.Coherence
import PageTemplates.Proofs.Render.Invariant
import PageTemplates.Storage.Table

/-! # Views within reach

The views that a render may meet are those that are kept and those that the storage can
answer with in any world that calls lead to. What holds of all of them holds of every
content that a load of the render answers with, and goes on to hold after it.
-/

namespace PageTemplates

variable {World : Type}

/-- The worlds that calls to the storage lead to from where they start. -/
inductive Storage.Leads (storage : Storage World) (start : World) : World → Prop
  | start : Leads storage start start
  | modified {world} (path : Path) :
      Leads storage start world → Leads storage start (storage.modified path world).2
  | read {world} (path : Path) :
      Leads storage start world → Leads storage start (storage.read path world).2

/-- Every content that the storage can answer with from a world on is accepted, once its
line endings are joined. -/
def Storage.OnlyReads (storage : Storage World) (accepts : String → Prop) (start : World) :
    Prop :=
  ∀ world, storage.Leads start world → ∀ path text,
    (storage.read path world).1 = .ok text → accepts (Text.normalizeLines text)

def ViewCache.OnlyHolds (accepts : String → Prop) (cache : ViewCache) : Prop :=
  ∀ components kept, Dictionary.get? cache.entries components = some kept →
    accepts kept.content

/-- The views that a session has kept or may yet read are accepted, and its templates are
the compilations of their sources. -/
structure Session.OnlyMeets (storage : Storage World) (accepts : String → Prop)
    (session : Session World) : Prop where
  templates : session.templates.Faithful
  kept : session.views.cache.OnlyHolds accepts
  readable : storage.OnlyReads accepts session.world

/-! ## Loading -/

namespace Storage

variable {storage : Storage World} {accepts : String → Prop} {world : World}

theorem Leads.trans {start middle : World} (first : storage.Leads start middle)
    (second : storage.Leads middle world) : storage.Leads start world := by
  induction second with
  | start => exact first
  | modified path _ induction => exact induction.modified path
  | read path _ induction => exact induction.read path

theorem OnlyReads.imp {others : String → Prop} (reads : storage.OnlyReads accepts world)
    (weaker : ∀ source, accepts source → others source) : storage.OnlyReads others world :=
  fun reached leads path text read => weaker _ (reads reached leads path text read)

theorem Leads.of_traced {start state : Traced World} (leads : storage.traced.Leads start state) :
    storage.Leads start.world state.world := by
  induction leads with
  | start => exact .start
  | modified path _ induction => exact induction.modified path
  | read path _ induction => exact induction.read path

/-- Recording the calls changes no answer. -/
theorem OnlyReads.traced {start : Traced World} (reads : storage.OnlyReads accepts start.world) :
    storage.traced.OnlyReads accepts start :=
  fun state leads path text read => reads state.world leads.of_traced path text read

theorem OnlyReads.later {later : World} (reads : storage.OnlyReads accepts world)
    (leads : storage.Leads world later) : storage.OnlyReads accepts later :=
  fun reached further => reads reached (leads.trans further)

end Storage

namespace ViewCache

variable {accepts : String → Prop} {cache : ViewCache}

theorem OnlyHolds.store (holds : cache.OnlyHolds accepts) {content : String}
    (accepted : accepts content) (path : Path) (modified : Time) (now : Nat) :
    (cache.store path content modified now).OnlyHolds accepts :=
  Dictionary.forall_get?_put holds accepted

theorem OnlyHolds.fresh? (holds : cache.OnlyHolds accepts) {path : Path} {modified : Time}
    {now : Nat} {content : String} (fresh : cache.fresh? path modified now = some content) :
    accepts content := by
  rcases exists_kept_of_fresh? fresh with ⟨kept, found, -, rfl⟩
  exact holds path.components kept found

end ViewCache

/-- What a load has of the views it may meet: its content is accepted, and so is all that
is met later. -/
structure Views.Accepts (storage : Storage World) (accepts : String → Prop)
    (result : Except RenderError String × Views × World) : Prop where
  content : ∀ content, result.1 = .ok content → accepts content
  kept : result.2.1.cache.OnlyHolds accepts
  readable : storage.OnlyReads accepts result.2.2

namespace Views

variable {storage : Storage World} {accepts : String → Prop} {views : Views} {world : World}

theorem fetch_accepts (holds : views.cache.OnlyHolds accepts)
    (reads : storage.OnlyReads accepts world) (path : Path) :
    Accepts storage accepts (fetch storage path views world) := by
  have asked := reads.later (.modified path .start)
  unfold fetch
  generalize storage.modified path world = answer at asked ⊢
  rcases answer with ⟨outcome, next⟩
  cases outcome with
  | error failure => exact ⟨nofun, holds, asked⟩
  | ok time =>
      dsimp only
      cases fresh : views.cache.fresh? path time (storage.clock next) with
      | some content =>
          refine ⟨fun found equal => ?_, holds, asked⟩
          cases equal
          exact holds.fresh? fresh
      | none =>
          have reread := asked.later (.read path .start)
          have answered := asked next .start path
          dsimp only
          generalize storage.read path next = answer at reread answered ⊢
          rcases answer with ⟨outcome, later⟩
          cases outcome with
          | error failure => exact ⟨nofun, holds, reread⟩
          | ok text =>
              have accepted := answered text rfl
              refine ⟨fun found equal => ?_, holds.store accepted path _ _, reread⟩
              cases equal
              exact accepted

theorem load_accepts (holds : views.cache.OnlyHolds accepts)
    (reads : storage.OnlyReads accepts world) (name : String) :
    Accepts storage accepts (views.load storage name world) := by
  unfold load
  cases views.pathOf name with
  | error problem => exact ⟨nofun, holds, reads⟩
  | ok path =>
      exact fetch_accepts (by simpa using holds) reads path

end Views

namespace Session.OnlyMeets

variable {storage : Storage World} {accepts : String → Prop} {session : Session World}

theorem imp {others : String → Prop} (meets : session.OnlyMeets storage accepts)
    (weaker : ∀ source, accepts source → others source) :
    session.OnlyMeets storage others where
  templates := meets.templates
  kept components kept found := weaker _ (meets.kept components kept found)
  readable := meets.readable.imp weaker

theorem content_of_load (meets : session.OnlyMeets storage accepts) {name content : String}
    (loaded : (session.load storage name).1 = .ok content) : accepts content :=
  (Views.load_accepts meets.kept meets.readable name).content content loaded

theorem keeps (storage : Storage World) (accepts : String → Prop) :
    Render.Keeps storage (Session.OnlyMeets storage accepts) where
  load name _ meets :=
    have loaded := Views.load_accepts meets.kept meets.readable name
    ⟨meets.templates, loaded.kept, loaded.readable⟩
  compile source _ meets :=
    ⟨(meets.templates.get source).2, meets.kept, meets.readable⟩

end Session.OnlyMeets

/-! ## Files in a table -/

namespace FileTable

theorem eq_of_leads {start table : FileTable} (leads : storage.Leads start table) :
    table = start := by
  induction leads with
  | start => rfl
  | modified path _ induction => exact induction
  | read path _ induction => exact induction

theorem onlyReads {accepts : String → Prop} {table : FileTable}
    (accepted : ∀ components file, Dictionary.get? table.files components = some file →
      accepts (Text.normalizeLines file.content)) : storage.OnlyReads accepts table := by
  intro world leads path text read
  cases eq_of_leads leads
  simp only [storage, find] at read
  split at read
  · cases read
  next file found =>
    have content : file.content = text := by
      split at read
      · split at read <;> cases read
        rfl
      · cases read
        rfl
    rw [← content]
    exact accepted path.components file found

end FileTable

end PageTemplates
