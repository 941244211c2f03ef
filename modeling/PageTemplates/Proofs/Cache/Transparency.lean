import PageTemplates.Proofs.Cache.Coherence
import PageTemplates.Proofs.Engine.Run
import PageTemplates.Proofs.Except
import PageTemplates.Storage.Table

/-! # Transparent caches

However long an engine has run, whatever it has kept and for however long, a step shows
what a new engine with the same configuration would show on the files of the moment.
-/

namespace PageTemplates.Engine

variable {World : Type}

/-! ## Without caches -/

/-- What a template renders from the files of this world. -/
def currentRender (storage : Storage World) (engine : Engine) (template : Template)
    (context : Context) (world : World) : Rendered :=
  Render.fixedTemplate (fun name => engine.views.current storage name world) context
    includeLevels template

/-- The template of a scheme, compiled anew. -/
def currentScheme (engine : Engine) (name : String) : Except RenderError Template :=
  match engine.schemes.get? name with
  | none => .error (.unresolvedScheme name)
  | some scheme =>
      if scheme.html.isEmpty then
        .error (.unresolvedScheme name)
      else
        .ok (Template.compile scheme.html)

/-- The page of a view from the files of this world. -/
def currentPage (storage : Storage World) (engine : Engine) (view : String)
    (context : Context) (scheme? : Option String) (world : World) : Page :=
  match engine.currentScheme (engine.schemeName context scheme?) with
  | .error _ => .failure .schemeNotFound
  | .ok template =>
      engine.finish (engine.currentRender storage template
        (context.insert "file_name" (.string view)) world)

/-- What a step shows where nothing is kept. -/
def currentAnswer (storage : Storage World) (engine : Engine) (world : World) :
    Step World → Answer
  | .compile source => .compiled (Template.compile source)
  | .render template context =>
      .rendered (engine.currentRender storage template context world)
  | .renderSource source context =>
      .rendered (engine.currentRender storage (Template.compile source) context world)
  | .load name => .loaded (engine.views.current storage name world)
  | .schemeTemplate name => .scheme (engine.currentScheme name)
  | .renderPage view context scheme? =>
      .page (engine.currentPage storage view context scheme? world)
  | .clearTemplates | .clearViews | .invalidate _ | .invalidateUnder _ | .change _ => .done

/-! ## Coherent engines -/

/-- An engine with coherent caches, the configuration and the schemes of `start`. -/
structure Coherent (contents : Storage.Contents) (start engine : Engine) : Prop where
  config : engine.config = start.config
  schemes : engine.schemes = start.schemes
  root : engine.views.root? = start.views.root?
  templates : engine.templates.Faithful
  views : engine.views.cache.Coherent contents

/-- What is left of a step that shows `answer`: a coherent engine, and the files as they
were. -/
structure Shows {Shown : Type} (storage : Storage World) (contents : Storage.Contents)
    (start : Engine) (world : World) (outcome : Shown × Engine × World) (answer : Shown) :
    Prop where
  answer : outcome.1 = answer
  coherent : Coherent contents start outcome.2.1
  files : storage.SameFiles world outcome.2.2

section

variable {storage : Storage World} {contents : Storage.Contents} {start engine : Engine}

theorem Coherent.session (coherent : Coherent contents start engine) (world : World) :
    Session.Coherent storage contents start.views world (engine.session world) :=
  ⟨coherent.templates, coherent.views, coherent.root, .refl world⟩

theorem Coherent.resume (coherent : Coherent contents start engine) {world : World}
    {session : Session World}
    (kept : Session.Coherent storage contents start.views world session) :
    Coherent contents start (engine.resume session) :=
  ⟨coherent.config, coherent.schemes, kept.root, kept.templates, kept.views⟩

theorem Coherent.withKeptViews (coherent : Coherent contents start engine)
    {cache : ViewCache} (kept : cache.Coherent contents) :
    Coherent contents start (engine.withKeptViews cache) :=
  ⟨coherent.config, coherent.schemes, coherent.root, coherent.templates, kept⟩

theorem Coherent.compile (coherent : Coherent contents start engine) (source : String) :
    (engine.compile source).1.template = Template.compile source ∧
      Coherent contents start (engine.compile source).2 := by
  have got := coherent.templates.get source
  exact ⟨got.1, coherent.config, coherent.schemes, coherent.root, got.2, coherent.views⟩

theorem Coherent.render (coherent : Coherent contents start engine)
    (steady : storage.Steady) {world : World} (dated : storage.Dated contents world)
    (template : Template) (context : Context) :
    Shows storage contents start world (engine.render storage template context world)
      (start.currentRender storage template context world) := by
  have rendered := Render.template_answers (Session.Coherent.fixes steady start.views dated)
    context includeLevels template (engine.session world) (coherent.session world)
  exact ⟨rendered.1, coherent.resume rendered.2, rendered.2.files⟩

theorem Coherent.load (coherent : Coherent contents start engine)
    (steady : storage.Steady) {world : World} (dated : storage.Dated contents world)
    (name : String) :
    Shows storage contents start world (engine.load storage name world)
      (start.views.current storage name world) := by
  have loaded := (Session.Coherent.fixes steady start.views dated).load name
    (engine.session world) (coherent.session world)
  exact ⟨loaded.1, coherent.resume loaded.2, loaded.2.files⟩

theorem Coherent.schemeTemplate (coherent : Coherent contents start engine)
    (name : String) :
    (engine.schemeTemplate name).1.map CompiledTemplate.template =
        start.currentScheme name ∧
      Coherent contents start (engine.schemeTemplate name).2 := by
  unfold Engine.schemeTemplate currentScheme
  rw [coherent.schemes]
  cases start.schemes.get? name with
  | none => exact ⟨rfl, coherent⟩
  | some scheme =>
      cases empty : scheme.html.isEmpty with
      | true => exact ⟨by simp [empty], by simpa [empty] using coherent⟩
      | false =>
          have compiled := coherent.compile scheme.html
          exact ⟨by simp [empty, compiled.1], by simpa [empty] using compiled.2⟩

theorem Coherent.renderPage (coherent : Coherent contents start engine)
    (steady : storage.Steady) {world : World} (dated : storage.Dated contents world)
    (view : String) (context : Context) (scheme? : Option String) :
    Shows storage contents start world
      (engine.renderPage storage view context scheme? world)
      (start.currentPage storage view context scheme? world) := by
  have name : engine.schemeName context scheme? = start.schemeName context scheme? := by
    unfold schemeName
    rw [coherent.config]
  have found := coherent.schemeTemplate (start.schemeName context scheme?)
  unfold Engine.renderPage currentPage
  rw [name, ← found.1]
  generalize engine.schemeTemplate (start.schemeName context scheme?) = outcome at found ⊢
  rcases outcome with ⟨result, next⟩
  cases result with
  | error problem => exact ⟨rfl, found.2, .refl world⟩
  | ok compiled =>
      have rendered := found.2.render steady dated compiled.template
        (context.insert "file_name" (.string view))
      refine ⟨?_, rendered.coherent, rendered.files⟩
      simp only [map_ok, ← rendered.answer]
      unfold finish
      rw [rendered.coherent.config]

/-! ## Steps and runs -/

theorem Coherent.perform (coherent : Coherent contents start engine)
    (steady : storage.Steady) {world : World} (dated : storage.Dated contents world)
    (step : Step World) (changed : ∀ next, step = .change next → storage.Dated contents next) :
    (engine.perform storage world step).1 = start.currentAnswer storage world step ∧
      Coherent contents start (engine.perform storage world step).2.1 ∧
      storage.Dated contents (engine.perform storage world step).2.2 := by
  cases step with
  | compile source =>
      have compiled := coherent.compile source
      exact ⟨congrArg Answer.compiled compiled.1, compiled.2, dated⟩
  | render template context =>
      have rendered := coherent.render steady dated template context
      exact ⟨congrArg Answer.rendered rendered.answer, rendered.coherent,
        dated.of_sameFiles rendered.files⟩
  | renderSource source context =>
      have compiled := coherent.compile source
      have rendered := compiled.2.render steady dated (engine.compile source).1.template
        context
      refine ⟨?_, rendered.coherent, dated.of_sameFiles rendered.files⟩
      rw [currentAnswer, ← compiled.1]
      exact congrArg Answer.rendered rendered.answer
  | load name =>
      have loaded := coherent.load steady dated name
      exact ⟨congrArg Answer.loaded loaded.answer, loaded.coherent,
        dated.of_sameFiles loaded.files⟩
  | schemeTemplate name =>
      have found := coherent.schemeTemplate name
      exact ⟨congrArg Answer.scheme found.1, found.2, dated⟩
  | renderPage view context scheme? =>
      have rendered := coherent.renderPage steady dated view context scheme?
      exact ⟨congrArg Answer.page rendered.answer, rendered.coherent,
        dated.of_sameFiles rendered.files⟩
  | clearTemplates =>
      exact ⟨rfl, ⟨coherent.config, coherent.schemes, coherent.root,
        TemplateCache.Faithful.clear _, coherent.views⟩, dated⟩
  | clearViews => exact ⟨rfl, coherent.withKeptViews .clear, dated⟩
  | invalidate path =>
      exact ⟨rfl, coherent.withKeptViews (coherent.views.invalidate path), dated⟩
  | invalidateUnder directory =>
      exact ⟨rfl, coherent.withKeptViews (coherent.views.invalidateUnder directory), dated⟩
  | change next => exact ⟨rfl, coherent, changed next rfl⟩

theorem Coherent.run (coherent : Coherent contents start engine)
    (steady : storage.Steady) {world : World} (dated : storage.Dated contents world)
    (steps : List (Step World))
    (changes : ∀ next, .change next ∈ steps → storage.Dated contents next) :
    ∀ moment ∈ engine.run storage world steps,
      moment.step ∈ steps ∧ storage.Dated contents moment.world ∧
        moment.answer = start.currentAnswer storage moment.world moment.step := by
  induction steps generalizing engine world with
  | nil => exact fun moment member => absurd member List.not_mem_nil
  | cons step rest induction =>
      have performed := coherent.perform steady dated step fun next equal =>
        changes next (equal ▸ List.mem_cons_self)
      intro moment member
      rw [run_cons] at member
      rcases List.mem_cons.mp member with rfl | later
      · exact ⟨List.mem_cons_self, dated, performed.1⟩
      · have shown := induction performed.2.1 performed.2.2
          (fun next member => changes next (List.mem_cons_of_mem _ member)) moment later
        exact ⟨List.mem_cons_of_mem _ shown.1, shown.2⟩

end

/-! ## New engines -/

/-- A new engine: nothing is kept in it. -/
def fresh (config : Config) (schemes : SchemeStore) : Engine :=
  (ofConfig config).withSchemes schemes

theorem coherent_fresh (contents : Storage.Contents) (config : Config)
    (schemes : SchemeStore) :
    Coherent contents (fresh config schemes) (fresh config schemes) :=
  ⟨rfl, rfl, rfl, TemplateCache.faithful_empty, ViewCache.coherent_empty config.lifetime⟩

/-- In every moment of a run the answer is that of a new engine in the world of the
moment. The storage must not change files by its own calls, and the modification time of
a file must tell, over the whole run, what reading it yields. -/
theorem run_eq_fresh (storage : Storage World) (steady : storage.Steady)
    (contents : Storage.Contents) (config : Config) (schemes : SchemeStore)
    (world : World) (dated : storage.Dated contents world) (steps : List (Step World))
    (changes : ∀ next, .change next ∈ steps → storage.Dated contents next) :
    ∀ moment ∈ (fresh config schemes).run storage world steps,
      moment.answer =
        ((fresh config schemes).perform storage moment.world moment.step).1 := by
  intro moment member
  have coherent := coherent_fresh contents config schemes
  rcases coherent.run steady dated steps changes moment member with ⟨made, dated, shown⟩
  have again := coherent.perform steady dated moment.step fun next equal =>
    changes next (equal ▸ made)
  rw [shown, again.1]

/-! A view that is rewritten while it is kept, in a table of files. -/

theorem steady_fileTable : FileTable.storage.Steady :=
  ⟨fun _ table => .refl table, fun _ table => .refl table⟩

theorem dated_write_empty {contents : Storage.Contents} (path : Path) (content : String)
    (time : Time) (holds : contents path.components time = .ok content) :
    FileTable.storage.Dated contents (FileTable.empty.write path ⟨content, time, none⟩) := by
  intro asked found modified
  simp only [FileTable.storage, FileTable.find, FileTable.write, FileTable.empty,
    Dictionary.get?_put] at modified ⊢
  by_cases same : path.components = asked.components
  · simp only [same, beq_self_eq_true, if_true, map_ok, Except.ok.injEq] at modified ⊢
    rw [← modified, ← same, holds]
  · simp [same] at modified

theorem run_eq_fresh_of_rewritten :
    FileTable.storage.Steady ∧
      ∀ moment ∈ (fresh (Config.standard.withViews ⟨"views"⟩) .empty).run FileTable.storage
        (FileTable.empty.write ⟨"views/a.html"⟩ ⟨"old", 1, none⟩)
        [.load "a", .change (FileTable.empty.write ⟨"views/a.html"⟩ ⟨"new", 2, none⟩),
          .load "a"],
        moment.answer = ((fresh (Config.standard.withViews ⟨"views"⟩) .empty).perform
          FileTable.storage moment.world moment.step).1 := by
  refine ⟨steady_fileTable, ?_⟩
  apply run_eq_fresh FileTable.storage steady_fileTable
    (fun _ time => .ok (if time = 1 then "old" else "new"))
  · exact dated_write_empty _ _ _ rfl
  · intro next member
    simp only [List.mem_cons, reduceCtorEq, Step.change.injEq, List.not_mem_nil, or_false,
      false_or] at member
    rw [member]
    exact dated_write_empty _ _ _ rfl

end PageTemplates.Engine
