import PageTemplates.Proofs.Cache.Requests
import PageTemplates.Proofs.Cache.Transparency
import PageTemplates.Proofs.View.Reachable

/-! # Templates over a run

Templates are asked for by the caller, by schemes and by includes that have loaded a view.
The log of these requests over a run tells what the cache of templates holds after it.
-/

namespace PageTemplates

variable {World : Type}

/-! ## Requests of a render -/

namespace Render

/-- The requests of segments, where `log` has those of an include. -/
def segmentsLog (follow : IncludeTarget → Session World → Rendered × Session World)
    (log : IncludeTarget → Session World → List TemplateEvent) (context : Context) :
    List Segment → Session World → List TemplateEvent
  | [], _ => []
  | first :: rest, session =>
      let events :=
        match first with
        | .inclusion target => log target session
        | .text _ | .path _ | .expression _ | .rejected => []
      events ++ segmentsLog follow log context rest (segment follow context session first).2

/-- An include whose view is loaded asks for the template of its content. -/
def inclusionLog (storage : Storage World) (context : Context) (levels : Nat)
    (target : IncludeTarget) (session : Session World) : List TemplateEvent :=
  match levels with
  | 0 => []
  | levels + 1 =>
      match session.load storage (target.resolve context) with
      | (.error _, _) => []
      | (.ok content, session) =>
          let (template, after) := session.compile content
          .requested ⟨.inclusion, content, (session.templates.get content).1⟩ ::
            segmentsLog (inclusion storage context levels)
              (inclusionLog storage context levels) context template.segments after

end Render

/-- The requests that a render of a template makes. -/
def Template.renderLog (storage : Storage World) (template : Template) (context : Context)
    (session : Session World) : List TemplateEvent :=
  Render.segmentsLog (Render.inclusion storage context includeLevels)
    (Render.inclusionLog storage context includeLevels) context template.segments session

/-- The content that a view has if the storage answers with its text at some time. -/
def Storage.Yields (storage : Storage World) (content : String) : Prop :=
  ∃ path world text, (storage.read path world).1 = .ok text ∧
    content = Text.normalizeLines text

theorem Storage.onlyReads_yields (storage : Storage World) (world : World) :
    storage.OnlyReads storage.Yields world :=
  fun reached _ path text read => ⟨path, reached, text, read, rfl⟩

theorem ViewCache.onlyHolds_empty (accepts : String → Prop) (lifetime : Nat) :
    (empty lifetime).OnlyHolds accepts := nofun

/-- What a part of a render does to a session: its requests are those of includes, for views
of the storage. -/
structure Session.Follows (storage : Storage World) (session : Session World)
    (log : List TemplateEvent) (after : Session World) : Prop where
  templates : session.templates.Leads log after.templates
  kept : after.views.cache.OnlyHolds storage.Yields
  requests : ∀ request, .requested request ∈ log →
    request.requester = .inclusion ∧ storage.Yields request.source

namespace Render

variable {storage : Storage World}

/-- What leaves the templates alone makes no request. -/
theorem follows_nil {session after : Session World}
    (templates : after.templates = session.templates)
    (kept : after.views.cache.OnlyHolds storage.Yields) :
    session.Follows storage [] after where
  templates := templates ▸ .nil _
  kept := kept
  requests := by simp

theorem segmentsLog_follows
    {follow : IncludeTarget → Session World → Rendered × Session World}
    {log : IncludeTarget → Session World → List TemplateEvent}
    (follows : ∀ target (session : Session World),
      session.views.cache.OnlyHolds storage.Yields →
      session.Follows storage (log target session) (follow target session).2)
    (context : Context) (parts : List Segment) (session : Session World)
    (kept : session.views.cache.OnlyHolds storage.Yields) :
    session.Follows storage (segmentsLog follow log context parts session)
      (segments follow context parts session).2 := by
  induction parts generalizing session with
  | nil => exact follows_nil rfl kept
  | cons first rest induction =>
      have head : session.Follows storage
          (match first with
            | .inclusion target => log target session
            | .text _ | .path _ | .expression _ | .rejected => [])
          (segment follow context session first).2 := by
        cases first with
        | inclusion target => exact follows target session kept
        | text | path | rejected => exact follows_nil rfl kept
        | expression value =>
            rw [segment]
            cases value.evaluate context <;> exact follows_nil rfl kept
      have tail := induction _ head.kept
      refine ⟨head.templates.append tail.templates, tail.kept, fun request member => ?_⟩
      exact (List.mem_append.mp member).elim (head.requests request) (tail.requests request)

theorem inclusionLog_follows (context : Context) (levels : Nat) (target : IncludeTarget)
    (session : Session World) (kept : session.views.cache.OnlyHolds storage.Yields) :
    session.Follows storage (inclusionLog storage context levels target session)
      (inclusion storage context levels target session).2 := by
  induction levels generalizing target session with
  | zero => exact follows_nil rfl kept
  | succ levels induction =>
      have loaded := Views.load_accepts kept (storage.onlyReads_yields session.world)
        (target.resolve context)
      rw [inclusion, inclusionLog]
      unfold Session.load
      generalize session.views.load storage (target.resolve context) session.world = outcome
        at loaded ⊢
      rcases outcome with ⟨result, views, world⟩
      cases result with
      | error problem => exact follows_nil rfl loaded.kept
      | ok content =>
          have inside := segmentsLog_follows induction context
            (session.templates.get content).1.template.segments
            { session with
              templates := (session.templates.get content).2, views := views, world := world }
            loaded.kept
          refine ⟨.requested .inclusion content inside.templates, inside.kept, ?_⟩
          intro request member
          rcases List.mem_cons.mp member with first | member
          · cases first
            exact ⟨rfl, loaded.content content rfl⟩
          · exact inside.requests request member

end Render

/-! ## Requests of a step -/

namespace Engine

def compileLog (engine : Engine) (requester : Requester) (source : String) :
    List TemplateEvent :=
  [.requested ⟨requester, source, (engine.compile source).1⟩]

/-- A scheme that is there and not empty asks for its template. -/
def schemeLog (engine : Engine) (name : String) : List TemplateEvent :=
  match engine.schemes.get? name with
  | none => []
  | some scheme =>
      if scheme.html.isEmpty then [] else engine.compileLog .scheme scheme.html

/-- The requests of a step, and the clearing that it may be. -/
def stepLog (storage : Storage World) (engine : Engine) (world : World) :
    Step World → List TemplateEvent
  | .compile source => engine.compileLog .caller source
  | .render template context => template.renderLog storage context (engine.session world)
  | .renderSource source context =>
      let (compiled, next) := engine.compile source
      engine.compileLog .caller source ++
        compiled.template.renderLog storage context (next.session world)
  | .schemeTemplate name => engine.schemeLog name
  | .renderPage view context scheme? =>
      let name := engine.schemeName context scheme?
      engine.schemeLog name ++
        match engine.schemeTemplate name with
        | (.error _, _) => []
        | (.ok compiled, next) =>
            compiled.template.renderLog storage
              (context.insert "file_name" (.string view)) (next.session world)
  | .clearTemplates => [.cleared]
  | .load _ | .clearViews | .invalidate _ | .invalidateUnder _ | .change _ => []

/-- The requests and clearings of a run, in order. -/
def runLog (storage : Storage World) (engine : Engine) (world : World) :
    List (Step World) → List TemplateEvent
  | [] => []
  | step :: rest =>
      let (_, next, later) := engine.perform storage world step
      engine.stepLog storage world step ++ runLog storage next later rest

/-- The engine after a run. -/
def afterRun (storage : Storage World) (engine : Engine) (world : World) :
    List (Step World) → Engine
  | [] => engine
  | step :: rest =>
      let (_, next, later) := engine.perform storage world step
      afterRun storage next later rest

end Engine

/-- Whether a request may arise in steps of a run: from a caller who compiles or renders its
source, from a scheme that is not empty, or from a view of the storage. -/
def TemplateRequest.ArisesIn (storage : Storage World) (schemes : SchemeStore)
    (steps : List (Engine.Step World)) (request : TemplateRequest) : Prop :=
  match request.requester with
  | .caller =>
      .compile request.source ∈ steps ∨ ∃ context, .renderSource request.source context ∈ steps
  | .scheme =>
      request.source ≠ "" ∧
        ∃ name scheme, schemes.get? name = some scheme ∧ scheme.html = request.source
  | .inclusion => storage.Yields request.source

namespace Engine

section

variable {storage : Storage World} {steps : List (Step World)} {engine : Engine}

/-- What a part of a run does to an engine, with its requests. -/
structure Follows (storage : Storage World) (steps : List (Step World)) (engine : Engine)
    (log : List TemplateEvent) (after : Engine) : Prop where
  templates : engine.templates.Leads log after.templates
  kept : after.views.cache.OnlyHolds storage.Yields
  schemes : after.schemes = engine.schemes
  requests : ∀ request, .requested request ∈ log →
    request.ArisesIn storage engine.schemes steps

/-- What leaves the templates and the schemes alone makes no request. -/
theorem Follows.nil {after : Engine} (templates : after.templates = engine.templates)
    (schemes : after.schemes = engine.schemes)
    (kept : after.views.cache.OnlyHolds storage.Yields) :
    Follows storage steps engine [] after where
  templates := templates ▸ .nil _
  kept := kept
  schemes := schemes
  requests := by simp

theorem Follows.append {middle after : Engine} {log others : List TemplateEvent}
    (first : Follows storage steps engine log middle)
    (second : Follows storage steps middle others after) :
    Follows storage steps engine (log ++ others) after where
  templates := first.templates.append second.templates
  kept := second.kept
  schemes := second.schemes.trans first.schemes
  requests request member :=
    (List.mem_append.mp member).elim (first.requests request)
      fun later => first.schemes ▸ second.requests request later

theorem compileLog_follows (kept : engine.views.cache.OnlyHolds storage.Yields)
    (requester : Requester) (source : String)
    (arises : TemplateRequest.ArisesIn storage engine.schemes steps
      ⟨requester, source, (engine.compile source).1⟩) :
    Follows storage steps engine (engine.compileLog requester source)
      (engine.compile source).2 := by
  refine ⟨engine.templates.leads_request requester source, kept, rfl, ?_⟩
  intro request member
  cases List.mem_singleton.mp member
  exact arises

theorem renderLog_follows (kept : engine.views.cache.OnlyHolds storage.Yields)
    (template : Template) (context : Context) (world : World) :
    Follows storage steps engine
      (template.renderLog storage context (engine.session world))
      (engine.render storage template context world).2.1 := by
  have rendered := Render.segmentsLog_follows
    (Render.inclusionLog_follows context includeLevels) context
    template.segments (engine.session world) kept
  refine ⟨rendered.templates, rendered.kept, rfl, fun request member => ?_⟩
  rcases rendered.requests request member with ⟨requester, yields⟩
  rw [TemplateRequest.ArisesIn, requester]
  exact yields

theorem schemeLog_follows (kept : engine.views.cache.OnlyHolds storage.Yields)
    (name : String) :
    Follows storage steps engine (engine.schemeLog name) (engine.schemeTemplate name).2 := by
  unfold schemeLog schemeTemplate
  cases found : engine.schemes.get? name with
  | none => exact .nil rfl rfl kept
  | some scheme =>
      dsimp only
      split
      next => exact .nil rfl rfl kept
      next nonempty =>
        refine compileLog_follows kept .scheme scheme.html ⟨?_, name, scheme, found, rfl⟩
        simpa using nonempty

/-! ## Runs -/

theorem stepLog_follows (kept : engine.views.cache.OnlyHolds storage.Yields) (world : World)
    {step : Step World} (member : step ∈ steps) :
    Follows storage steps engine (engine.stepLog storage world step)
      (engine.perform storage world step).2.1 := by
  cases step with
  | compile source => exact compileLog_follows kept .caller source (.inl member)
  | render template context => exact renderLog_follows kept template context world
  | renderSource source context =>
      have compiled := compileLog_follows kept .caller source (.inr ⟨context, member⟩)
      exact compiled.append (renderLog_follows compiled.kept _ context world)
  | load name =>
      have loaded := Views.load_accepts kept (storage.onlyReads_yields world) name
      exact .nil rfl rfl loaded.kept
  | schemeTemplate name => exact schemeLog_follows kept name
  | renderPage view context scheme? =>
      have found : Follows storage steps engine _ _ :=
        schemeLog_follows kept (engine.schemeName context scheme?)
      simp only [stepLog, perform, renderPage]
      generalize engine.schemeTemplate (engine.schemeName context scheme?) = outcome at found ⊢
      rcases outcome with ⟨result, next⟩
      cases result with
      | error problem => rwa [List.append_nil]
      | ok compiled => exact found.append (renderLog_follows found.kept _ _ world)
  | clearTemplates => exact ⟨.cleared (.nil _), kept, rfl, by simp [stepLog]⟩
  | clearViews =>
      exact .nil rfl rfl (ViewCache.onlyHolds_empty _ engine.views.cache.lifetime)
  | invalidate path =>
      exact .nil rfl rfl (Dictionary.forall_get?_filter kept
        fun components => !(components == path.components))
  | invalidateUnder directory =>
      exact .nil rfl rfl (Dictionary.forall_get?_filter kept
        fun components => !directory.covers components)
  | change next => exact .nil rfl rfl kept

theorem runLog_follows (kept : engine.views.cache.OnlyHolds storage.Yields) (world : World)
    {rest : List (Step World)} (members : rest ⊆ steps) :
    Follows storage steps engine (engine.runLog storage world rest)
      (engine.afterRun storage world rest) := by
  induction rest generalizing engine world with
  | nil => exact .nil rfl rfl kept
  | cons step rest induction =>
      rcases List.cons_subset.mp members with ⟨member, members⟩
      have first := stepLog_follows kept world member
      exact first.append (induction first.kept _ members)

end

namespace RunSample

def item : String := "<li>\n</li>"

def files : FileTable :=
  FileTable.empty.write ⟨"views/item.html"⟩ ⟨"<li>\r\n</li>", 1, none⟩

def page : String := "\x7b\x7b include('item') \x7d\x7d\x7b\x7b include('item') \x7d\x7d"

def steps : List (Step FileTable) :=
  [.renderSource page .empty, .clearTemplates, .load "item", .compile item]

def engine : Engine := fresh (Config.standard.withViews ⟨"views"⟩) .empty

def log : List TemplateEvent := engine.runLog FileTable.storage files steps

/-- The source of a request and the serial number that it got. -/
def number? : TemplateEvent → Option (String × Nat)
  | .requested request => some (request.source, request.compiled.serial)
  | .cleared => none

theorem requested_of_number? {event : TemplateEvent} {source : String} {serial : Nat}
    (shown : number? event = some (source, serial)) :
    ∃ request, event = .requested request ∧ request.source = source ∧
      request.compiled.serial = serial := by
  cases event with
  | requested request =>
      cases shown
      exact ⟨request, rfl, rfl, rfl⟩
  | cleared => cases shown

end RunSample

end Engine

end PageTemplates
