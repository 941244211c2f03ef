import PageTemplates.Proofs.Cache.Transparency
import PageTemplates.Proofs.Render.Reference

/-! # The limit on nested includes

A render is what its template renders without a limit, unless some include is met as deep
as the limit. Such an include is reported and does nothing else: it shows nothing, loads
nothing and asks the storage for nothing.
-/

namespace PageTemplates

variable {World : Type}

/-! ## Loads are never too deep -/

theorem RenderError.ofFailure_ne_includeTooDeep (path : Path) (failure : Failure)
    (name : String) : ofFailure path failure ≠ .includeTooDeep name := by
  unfold ofFailure
  split <;> exact nofun

theorem ViewName.refusal?_ne_includeTooDeep (asked name : String) :
    refusal? asked ≠ some (.includeTooDeep name) := by
  unfold refusal?
  split
  · simp
  · split <;> simp

theorem Views.fetch_ne_includeTooDeep (storage : Storage World) (path : Path)
    (views : Views) (world : World) (name : String) :
    (fetch storage path views world).1 ≠ .error (.includeTooDeep name) := by
  unfold fetch
  split
  · simp [RenderError.ofFailure_ne_includeTooDeep]
  · split
    · simp
    · split <;> simp [RenderError.ofFailure_ne_includeTooDeep]

theorem Views.load_ne_includeTooDeep (storage : Storage World) (asked : String)
    (views : Views) (world : World) (name : String) :
    (views.load storage asked world).1 ≠ .error (.includeTooDeep name) := by
  unfold load pathOf
  split
  next refused =>
    split at refused
    · cases refused
      simp
    · split at refused
      next refusal =>
        cases refused
        rintro equal
        cases equal
        exact ViewName.refusal?_ne_includeTooDeep _ _ refusal
      · cases refused
  · exact fetch_ne_includeTooDeep storage _ _ world name

/-! ## What a render does to its session -/

/-- Load a view and compile what was loaded: all that an include does to a session by
itself. -/
def Session.enter (storage : Storage World) (session : Session World) (name : String) :
    Session World :=
  match session.load storage name with
  | (.ok content, after) => (after.compile content).2
  | (.error _, after) => after

namespace Render

/-- What an event does to a session. An include at the limit does nothing. -/
def Event.perform (storage : Storage World) (context : Context) (limit : Nat)
    (session : Session World) : Event → Session World
  | .shown _ => session
  | .included depth target =>
      if depth < limit then session.enter storage (target.resolve context) else session

variable {storage : Storage World} {loads : Loads} {context : Context}
  {invariant : Session World → Prop}

theorem segment_session_of_plain
    {follow : IncludeTarget → Session World → Rendered × Session World} {part : Segment}
    (plain : part.isInclusion = false) (session : Session World) :
    (segment follow context session part).2 = session := by
  cases part with
  | inclusion => cases plain
  | text | path | rejected => rfl
  | expression value =>
      rw [segment]
      cases value.evaluate context <;> rfl

theorem segments_session {limit : Nat}
    {follow : IncludeTarget → Session World → Rendered × Session World}
    {enter : IncludeTarget → List Event}
    (follows : ∀ target session, invariant session →
      (follow target session).2 =
          (enter target).foldl (Event.perform storage context limit) session ∧
        invariant (follow target session).2)
    (parts : List Segment) (session : Session World) (holds : invariant session) :
    (segments follow context parts session).2 =
      (parts.flatMap (walkSegment enter context)).foldl
        (Event.perform storage context limit) session := by
  induction parts generalizing session with
  | nil => rfl
  | cons part rest induction =>
      change (segments follow context rest (segment follow context session part).2).2 = _
      rw [List.flatMap_cons, List.foldl_append]
      cases part with
      | inclusion target =>
          have entered := follows target session holds
          rw [walkSegment, ← entered.1]
          exact induction _ entered.2
      | text | path | expression | rejected =>
          rw [segment_session_of_plain rfl]
          exact induction session holds

theorem inclusion_session (fixes : Fixes storage loads invariant) {limit levels depth : Nat}
    (sum : depth + levels = limit) (target : IncludeTarget) (session : Session World)
    (holds : invariant session) :
    (inclusion storage context levels target session).2 =
      (walkInclusion loads context levels depth target).foldl
        (Event.perform storage context limit) session := by
  induction levels generalizing depth target session with
  | zero =>
      have reached : ¬ depth < limit := by omega
      simp [inclusion, walkInclusion, Event.perform, reached]
  | succ levels induction =>
      have below : depth < limit := by omega
      have deeper : depth + 1 + levels = limit := by omega
      have nested (inner : IncludeTarget) (session : Session World)
          (holds : invariant session) :=
        And.intro (induction deeper inner session holds)
          (inclusion_answers fixes context levels inner session holds).2
      have loaded : (session.load storage (target.resolve context)).1 =
          loads (target.resolve context) ∧
            invariant (session.load storage (target.resolve context)).2 :=
        fixes.load (target.resolve context) session holds
      rw [inclusion, walkInclusion, List.foldl_cons, Event.perform, if_pos below,
        Session.enter, Loads.entered, ← loaded.1]
      generalize session.load storage (target.resolve context) = outcome at loaded ⊢
      rcases outcome with ⟨result, after⟩
      cases result with
      | error problem => rfl
      | ok content =>
          have compiled := fixes.compile content after loaded.2
          simp only [← compiled.1]
          exact segments_session nested _ _ compiled.2

theorem template_session (fixes : Fixes storage loads invariant) (levels : Nat)
    (rendered : Template) (session : Session World) (holds : invariant session) :
    (template storage context levels rendered session).2 =
      (walk loads context levels rendered.segments).foldl
        (Event.perform storage context levels) session := by
  refine segments_session (fun target session holds => ?_) rendered.segments session holds
  exact ⟨inclusion_session fixes (Nat.zero_add levels) target session holds,
    (inclusion_answers fixes context levels target session holds).2⟩

/-! ## The limit -/

/-- What becomes of a session and its answer, event by event. -/
structure Accounts (storage : Storage World) (loads : Loads) (context : Context)
    (limit : Nat) (events : List Event) (session : Session World)
    (outcome : Rendered × Session World) : Prop where
  output : outcome.1.output = String.join (events.map Event.text)
  errors : outcome.1.errors = events.filterMap (Event.problem? loads context limit)
  session : outcome.2 = events.foldl (Event.perform storage context limit) session

theorem includeTooDeep_mem_iff {limit : Nat} {parts : List Segment}
    (loadable : ∀ asked name, loads asked ≠ .error (.includeTooDeep name)) (name : String) :
    .includeTooDeep name ∈
        (ofEvents loads context limit (walk loads context limit parts)).errors ↔
      ∃ target, .included limit target ∈ walk loads context limit parts ∧
        target.resolve context = name := by
  simp only [ofEvents, List.mem_filterMap]
  constructor
  · rintro ⟨event, member, problem⟩
    cases event with
    | shown text => cases problem
    | included depth target =>
        rw [Event.problem?] at problem
        split at problem
        · split at problem
          · cases problem
          next failed =>
            cases problem
            exact absurd failed (loadable _ name)
        next reached =>
          have deepest := depth_le_of_mem_walk member
          have equal : depth = limit := by omega
          cases problem
          exact ⟨target, equal ▸ member, rfl⟩
  · rintro ⟨target, member, rfl⟩
    exact ⟨_, member, by simp [Event.problem?]⟩

theorem not_includeTooDeep_iff {limit : Nat} {template : Template}
    (loadable : ∀ asked name, loads asked ≠ .error (.includeTooDeep name)) :
    (∀ name, .includeTooDeep name ∉
        (fixedTemplate loads context limit template).errors) ↔
      ∀ target, .included limit target ∉ walk loads context limit template.segments := by
  rw [fixedTemplate_eq_ofEvents]
  simp only [includeTooDeep_mem_iff loadable]
  constructor
  · intro none target met
    exact none (target.resolve context) ⟨target, met, rfl⟩
  · rintro none name ⟨target, met, rfl⟩
    exact none target met

/-- A view that includes itself is met at every depth. -/
theorem included_of_selfInclusion {target : IncludeTarget}
    (again : .inclusion target ∈ loads.entered context target) (levels depth : Nat) :
    .included (depth + levels) target ∈
      walkInclusion loads context levels depth target := by
  induction levels generalizing depth with
  | zero => exact List.mem_singleton.mpr rfl
  | succ levels induction =>
      have deeper : depth + (levels + 1) = depth + 1 + levels := by omega
      rw [deeper, walkInclusion]
      exact List.mem_cons_of_mem _ (mem_walk_parts.mpr ⟨target, again, induction (depth + 1)⟩)

end Render

open Render in
/-- A render with fixed loads is the rendering without a limit, if there is one that nests
no include 64 deep; and otherwise, and only then, it reports such an include. What it
shows, reports and does to its session comes from the walk through the document: an
include at depth 64 adds its error and nothing else. -/
theorem Template.render_eq_reference_iff {storage : Storage World} {loads : Loads}
    {invariant : Session World → Prop} (fixes : Fixes storage loads invariant)
    (session : Session World) (holds : invariant session) (template : Template)
    (context : Context) :
    ((∀ name, .includeTooDeep name ∉ (template.render storage context session).1.errors) ↔
      (∃ reference, Reference loads context template.segments reference) ∧
        ∀ levels depth target,
          .included depth target ∈ walk loads context levels template.segments →
            depth < 64) ∧
    ((∀ name, .includeTooDeep name ∉ (template.render storage context session).1.errors) →
      ∀ reference, Reference loads context template.segments reference →
        (template.render storage context session).1 = reference) ∧
    (∀ name, .includeTooDeep name ∈ (template.render storage context session).1.errors ↔
      ∃ target, .included 64 target ∈ walk loads context 64 template.segments ∧
        target.resolve context = name) ∧
    Accounts storage loads context 64 (walk loads context 64 template.segments) session
      (template.render storage context session) := by
  have answer : (template.render storage context session).1 =
      fixedTemplate loads context 64 template :=
    (template_answers fixes context 64 template session holds).1
  have loadable : ∀ asked name, loads asked ≠ .error (.includeTooDeep name) := by
    intro asked name failed
    have loaded : (session.load storage asked).1 = loads asked :=
      (fixes.load asked session holds).1
    exact Views.load_ne_includeTooDeep storage asked session.views session.world name
      (loaded.trans failed)
  have ended : (∀ name, .includeTooDeep name ∉
      (fixedTemplate loads context 64 template).errors) ↔
        ∀ target, .included 64 target ∉ walk loads context 64 template.segments :=
    not_includeTooDeep_iff loadable
  have events : fixedTemplate loads context 64 template =
      ofEvents loads context 64 (walk loads context 64 template.segments) :=
    fixedTemplate_eq_ofEvents 64 template
  rw [answer]
  refine ⟨?_, ?_, ?_, ?_⟩
  · rw [ended]
    constructor
    · exact fun ended => ⟨⟨_, reference_of_ended ended⟩, fun levels depth target met =>
        depth_lt_of_ended ended met⟩
    · exact fun bounded target met =>
        absurd (bounded.2 64 64 target met) (Nat.lt_irrefl 64)
  · intro none reference derived
    exact (reference_of_ended (ended.mp none)).unique derived
  · rw [events]
    exact includeTooDeep_mem_iff loadable
  · refine ⟨?_, ?_, template_session fixes 64 template session holds⟩
    · rw [answer, events]
      rfl
    · rw [answer, events]
      rfl

/-! A view that includes itself. -/

def loopSource : String := "+\x7b\x7b include('loop') \x7d\x7d"

def loopFiles : FileTable :=
  FileTable.empty.write ⟨"views/loop.html"⟩ ⟨loopSource, 1, none⟩

def loopEngine : Engine :=
  .fresh (Config.standard.withViews ⟨"views"⟩) .empty

def loopLoads : Render.Loads :=
  fun name => loopEngine.views.current FileTable.storage name loopFiles

open Render in
theorem Template.render_of_loop :
    Fixes FileTable.storage loopLoads
        (Session.Coherent FileTable.storage (fun _ _ => .ok loopSource) loopEngine.views
          loopFiles) ∧
      Session.Coherent FileTable.storage (fun _ _ => .ok loopSource) loopEngine.views
        loopFiles (loopEngine.session loopFiles) ∧
      .includeTooDeep "loop" ∈
        ((Template.mk [.inclusion (.quoted "loop")]).render FileTable.storage .empty
          (loopEngine.session loopFiles)).1.errors := by
  have dated : FileTable.storage.Dated (fun _ _ => .ok loopSource) loopFiles :=
    Engine.dated_write_empty ⟨"views/loop.html"⟩ loopSource 1 rfl
  have fixes : Fixes FileTable.storage loopLoads _ :=
    Session.Coherent.fixes Engine.steady_fileTable loopEngine.views dated
  have coherent : Session.Coherent FileTable.storage (fun _ _ => .ok loopSource)
      loopEngine.views loopFiles (loopEngine.session loopFiles) :=
    (Engine.coherent_fresh (fun _ _ => .ok loopSource)
      (Config.standard.withViews ⟨"views"⟩) .empty).session loopFiles
  have compiled : Template.compile loopSource =
      ⟨[.text "+", .inclusion (.quoted "loop")]⟩ := by
    with_unfolding_all rfl
  have again : .inclusion (.quoted "loop") ∈ loopLoads.entered .empty (.quoted "loop") := by
    change _ ∈ (Template.compile loopSource).segments
    rw [compiled]
    simp
  refine ⟨fixes, coherent, ?_⟩
  have rendered := Template.render_eq_reference_iff fixes (loopEngine.session loopFiles)
    coherent ⟨[.inclusion (.quoted "loop")]⟩ .empty
  exact (rendered.2.2.1 "loop").mpr ⟨.quoted "loop",
    mem_walk_parts.mpr ⟨_, List.mem_cons_self, included_of_selfInclusion again 64 0⟩,
    by decide +kernel⟩

end PageTemplates
