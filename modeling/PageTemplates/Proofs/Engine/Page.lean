import PageTemplates.Engine
import PageTemplates.Proofs.Cache.Coherence
import PageTemplates.Proofs.Render.Footprint
import PageTemplates.Storage.Table

/-! # Pages

A page is a scheme rendered with the data of the request. Without a scheme nothing is read
and nothing kept. With one the page is what the scheme renders, or a failure that shows none
of it: an engine that ignores errors and one that does not differ only in the pages that
have some.
-/

namespace PageTemplates

/-- The text that data has under `_scheme`. -/
def Data.schemeName? (data : Data) : Option String :=
  match data.json.get? "_scheme" with
  | some (.string name) => some name
  | _ => none

namespace Context

@[simp]
theorem get?_ofData (data : Data) (name : String) :
    (ofData data).get? name = data.json.get? name := by
  rcases data with ⟨json, ordered⟩
  cases json <;> rfl

/-- The data of a page: that of the request, and the name of the view as `file_name`. -/
def ofPage (view : String) (data : Data) : Context :=
  (ofData data).insert "file_name" (.string view)

theorem get?_ofPage (view : String) (data : Data) (name : String) :
    (ofPage view data).get? name =
      if "file_name" = name then some (.string view) else data.json.get? name := by
  simp [ofPage, Data.string]

end Context

namespace Engine

/-! ## The scheme of a page -/

/-- The name of the scheme of a page: the one asked for, else the one in the data, else the
one of the configuration, else the empty name. -/
def wantedScheme (engine : Engine) (data : Data) (scheme? : Option String) : String :=
  ((scheme?.or data.schemeName?).or engine.config.defaultScheme?).getD ""

theorem schemeName_ofData (engine : Engine) (data : Data) (scheme? : Option String) :
    engine.schemeName (.ofData data) scheme? = engine.wantedScheme data scheme? := by
  unfold schemeName wantedScheme Data.schemeName?
  cases scheme? with
  | some name => rfl
  | none =>
      rw [Context.get?_ofData]
      dsimp only
      split <;> simp_all

/-- The store has no scheme of the name, or an empty one. -/
def LacksScheme (engine : Engine) (name : String) : Prop :=
  ∀ scheme, engine.schemes.get? name = some scheme → scheme.html = ""

theorem schemeTemplate_of_lacks {engine : Engine} {name : String}
    (lacks : engine.LacksScheme name) :
    engine.schemeTemplate name = (.error (.unresolvedScheme name), engine) := by
  unfold schemeTemplate
  cases found : engine.schemes.get? name with
  | none => rfl
  | some scheme => simp [lacks scheme found]

theorem schemeTemplate_of_html {engine : Engine} {name : String} {scheme : Scheme}
    (found : engine.schemes.get? name = some scheme) (nonempty : scheme.html ≠ "") :
    engine.schemeTemplate name =
      (.ok (engine.compile scheme.html).1, (engine.compile scheme.html).2) := by
  unfold schemeTemplate
  simp [found, nonempty]

variable {World : Type}

/-- What a scheme renders as the page of a view. -/
def renderScheme (storage : Storage World) (engine : Engine) (html view : String)
    (data : Data) (world : World) : Rendered × Engine × World :=
  (engine.compile html).2.render storage (engine.compile html).1.template
    (.ofPage view data) world

theorem renderPage_of_lacks (storage : Storage World) (engine : Engine) {data : Data}
    {scheme? : Option String} (lacks : engine.LacksScheme (engine.wantedScheme data scheme?))
    (view : String) (world : World) :
    engine.renderPage storage view (.ofData data) scheme? world =
      (.failure .schemeNotFound, engine, world) := by
  rw [renderPage, schemeName_ofData, schemeTemplate_of_lacks lacks]

theorem renderPage_of_html (storage : Storage World) {engine : Engine} {data : Data}
    {scheme? : Option String} {scheme : Scheme}
    (found : engine.schemes.get? (engine.wantedScheme data scheme?) = some scheme)
    (nonempty : scheme.html ≠ "") (view : String) (world : World) :
    engine.renderPage storage view (.ofData data) scheme? world =
      ((engine.renderScheme storage scheme.html view data world).2.1.finish
        (engine.renderScheme storage scheme.html view data world).1,
        (engine.renderScheme storage scheme.html view data world).2) := by
  rw [renderPage, schemeName_ofData, schemeTemplate_of_html found nonempty]
  rfl

/-! ## Errors -/

/-- The engine with the same state that ignores errors, or that does not. -/
def withIgnoreErrors (engine : Engine) (ignoreErrors : Bool) : Engine :=
  { engine with config := engine.config.withIgnoreErrors ignoreErrors }

theorem config_renderScheme (storage : Storage World) (engine : Engine) (html view : String)
    (data : Data) (world : World) :
    (engine.renderScheme storage html view data world).2.1.config = engine.config :=
  rfl

theorem renderScheme_withIgnoreErrors (storage : Storage World) (engine : Engine)
    (ignoreErrors : Bool) (html view : String) (data : Data) (world : World) :
    (engine.withIgnoreErrors ignoreErrors).renderScheme storage html view data world =
      ((engine.renderScheme storage html view data world).1,
        (engine.renderScheme storage html view data world).2.1.withIgnoreErrors ignoreErrors,
        (engine.renderScheme storage html view data world).2.2) :=
  rfl

theorem renderPage_withIgnoreErrors (storage : Storage World) {engine : Engine} {data : Data}
    {scheme? : Option String} {scheme : Scheme}
    (found : engine.schemes.get? (engine.wantedScheme data scheme?) = some scheme)
    (nonempty : scheme.html ≠ "") (view : String) (world : World) (ignoreErrors : Bool) :
    ((engine.withIgnoreErrors ignoreErrors).renderPage storage view (.ofData data) scheme?
      world).1 =
      ((engine.renderScheme storage scheme.html view data world).2.1.withIgnoreErrors
        ignoreErrors).finish (engine.renderScheme storage scheme.html view data world).1 := by
  have same : (engine.withIgnoreErrors ignoreErrors).schemes.get?
      ((engine.withIgnoreErrors ignoreErrors).wantedScheme data scheme?) = some scheme := found
  rw [renderPage_of_html storage same nonempty, renderScheme_withIgnoreErrors]

theorem finish_eq_html {engine : Engine} {rendered : Rendered}
    (accepted : rendered.errors = [] ∨ engine.config.ignoreErrors = true) :
    engine.finish rendered = .html rendered.output := by
  rw [finish, if_pos (by simpa [Rendered.isClean] using accepted)]

theorem finish_eq_failure {engine : Engine} {rendered : Rendered}
    (errors : rendered.errors ≠ []) (strict : engine.config.ignoreErrors = false) :
    engine.finish rendered = .failure .renderFailed := by
  rw [finish, if_neg (by simpa [Rendered.isClean, strict] using errors)]

/-- A page without a scheme is not found: nothing is read, kept or forgotten. Any other is
what its scheme renders with the data and the name of the view, if that has no errors or
they are ignored, and else the failure that shows nothing of it. So a strict engine and a
lenient one with the same state differ exactly where the render has errors. -/
theorem page_of_scheme (storage : Storage World) (engine : Engine) (view : String)
    (data : Data) (scheme? : Option String) (world : World) :
    let name := engine.wantedScheme data scheme?
    let outcome := engine.renderPage storage view (.ofData data) scheme? world
    let strict := (engine.withIgnoreErrors false).renderPage storage view (.ofData data)
      scheme? world
    let lenient := (engine.withIgnoreErrors true).renderPage storage view (.ofData data)
      scheme? world
    (engine.LacksScheme name →
      outcome = (.failure .schemeNotFound, engine, world) ∧ outcome.1.status = 404 ∧
      strict.1 = lenient.1 ∧
      ∀ calls, engine.renderPage storage.traced view (.ofData data) scheme? ⟨world, calls⟩ =
        (.failure .schemeNotFound, engine, ⟨world, calls⟩)) ∧
    (∀ scheme, engine.schemes.get? name = some scheme → scheme.html ≠ "" →
      let rendered := engine.renderScheme storage scheme.html view data world
      outcome.2 = rendered.2 ∧
      (rendered.1.errors = [] ∨ engine.config.ignoreErrors = true →
        outcome.1 = .html rendered.1.output) ∧
      (rendered.1.errors ≠ [] → engine.config.ignoreErrors = false →
        outcome.1 = .failure .renderFailed ∧ outcome.1.status = 500 ∧
          outcome.1.html? = none) ∧
      (rendered.1.errors = [] → strict.1 = lenient.1) ∧
      (rendered.1.errors ≠ [] →
        strict.1 = .failure .renderFailed ∧ lenient.1 = .html rendered.1.output) ∧
      (engine.templates.Faithful →
        (engine.compile scheme.html).1.template = Template.compile scheme.html)) ∧
    ∀ asked, (Context.ofPage view data).get? asked =
      if "file_name" = asked then some (.string view) else data.json.get? asked := by
  intro name outcome strict lenient
  refine ⟨fun lacks => ?_, fun scheme found nonempty => ?_, Context.get?_ofPage view data⟩
  · have missing : outcome = (.failure .schemeNotFound, engine, world) :=
      renderPage_of_lacks storage engine lacks view world
    have whenStrict := renderPage_of_lacks storage (engine.withIgnoreErrors false) lacks view
      world
    have whenLenient := renderPage_of_lacks storage (engine.withIgnoreErrors true) lacks view
      world
    exact ⟨missing, by rw [missing]; rfl,
      (congrArg Prod.fst whenStrict).trans (congrArg Prod.fst whenLenient).symm,
      fun calls => renderPage_of_lacks storage.traced engine lacks view ⟨world, calls⟩⟩
  · intro rendered
    have made : outcome = (rendered.2.1.finish rendered.1, rendered.2) :=
      renderPage_of_html storage found nonempty view world
    have whenStrict := renderPage_withIgnoreErrors storage found nonempty view world false
    have whenLenient := renderPage_withIgnoreErrors storage found nonempty view world true
    have config : rendered.2.1.config = engine.config := config_renderScheme ..
    refine ⟨congrArg Prod.snd made, fun accepted => ?_, fun errors intolerant => ?_,
      fun clean => ?_, fun errors => ⟨?_, ?_⟩, fun faithful => (faithful.get scheme.html).1⟩
    · rw [made]
      exact finish_eq_html (config ▸ accepted)
    · have failed : outcome.1 = .failure .renderFailed := by
        rw [made]
        exact finish_eq_failure errors (config ▸ intolerant)
      exact ⟨failed, by rw [failed]; rfl, by rw [failed]; rfl⟩
    · calc
        strict.1 = .html rendered.1.output := whenStrict.trans (finish_eq_html (.inl clean))
        _ = lenient.1 := (whenLenient.trans (finish_eq_html (.inl clean))).symm
    · exact whenStrict.trans (finish_eq_failure errors rfl)
    · exact whenLenient.trans (finish_eq_html (.inr rfl))

/-! A scheme that includes a view which cannot be loaded. -/

namespace PageSample

def html : String := "a\x7b\x7b include(file_name) \x7d\x7db"

def scheme : Scheme := ⟨"main", .empty, html⟩

def engine : Engine := (ofConfig .standard).withSchemes (SchemeStore.empty.insert scheme)

def data : Data where
  json := .object [("_scheme", .string "main"), ("file_name", .string "other")]
  ordered := by decide +kernel

def rendered : Rendered :=
  (engine.renderScheme FileTable.storage html "home" data FileTable.empty).1

end PageSample

open PageSample in
theorem page_of_scheme_failing :
    engine.LacksScheme "nope" ∧
      engine.renderPage FileTable.storage "home" (.ofData data) (some "nope") FileTable.empty =
        (.failure .schemeNotFound, engine, FileTable.empty) ∧
      engine.schemes.get? "main" = some scheme ∧ html ≠ "" ∧ rendered.errors ≠ [] ∧
      ((engine.withIgnoreErrors false).renderPage FileTable.storage "home" (.ofData data) none
        FileTable.empty).1 = .failure .renderFailed ∧
      ((engine.withIgnoreErrors true).renderPage FileTable.storage "home" (.ofData data) none
        FileTable.empty).1 = .html "ab" := by
  have lacks : engine.LacksScheme "nope" := by
    intro scheme found
    rw [show engine.schemes.get? "nope" = none by decide +kernel] at found
    cases found
  have found : engine.schemes.get? "main" = some scheme := by decide +kernel
  have nonempty : html ≠ "" := by decide +kernel
  have errors : rendered.errors ≠ [] := by
    intro none
    have clean : rendered.errors.isEmpty = false := by decide +kernel
    rw [none] at clean
    cases clean
  have output : rendered.output = "ab" := by decide +kernel
  rcases page_of_scheme FileTable.storage engine "home" data (some "nope") FileTable.empty with
    ⟨missing, -⟩
  rcases page_of_scheme FileTable.storage engine "home" data none FileTable.empty with
    ⟨-, present, -⟩
  rcases present scheme found nonempty with ⟨-, -, -, -, differ, -⟩
  exact ⟨lacks, (missing lacks).1, found, nonempty, errors, (differ errors).1,
    output ▸ (differ errors).2⟩

end Engine

end PageTemplates
