import PageTemplates.Engine

/-! # Runs of an engine

An engine is used step by step. Between two steps the files may change in any way, and
kept templates and views may be forgotten, as a watcher has it.
-/

namespace PageTemplates.Engine

variable {World : Type}

inductive Step (World : Type)
  | compile (source : String)
  | render (template : Template) (context : Context)
  | renderSource (source : String) (context : Context)
  | load (name : String)
  | schemeTemplate (name : String)
  | renderPage (view : String) (context : Context) (scheme? : Option String)
  | clearTemplates
  | clearViews
  | invalidate (path : Path)
  | invalidateUnder (directory : Path)
  | change (world : World)

/-- What a step shows. The serial number of a compilation is not part of it. -/
inductive Answer
  | compiled (template : Template)
  | rendered (rendered : Rendered)
  | loaded (content : Except RenderError String)
  | scheme (template : Except RenderError Template)
  | page (page : Page)
  | done

def perform (storage : Storage World) (engine : Engine) (world : World) :
    Step World → Answer × Engine × World
  | .compile source =>
      let (compiled, engine) := engine.compile source
      (.compiled compiled.template, engine, world)
  | .render template context =>
      let (rendered, engine, world) := engine.render storage template context world
      (.rendered rendered, engine, world)
  | .renderSource source context =>
      let (rendered, engine, world) := engine.renderSource storage source context world
      (.rendered rendered, engine, world)
  | .load name =>
      let (content, engine, world) := engine.load storage name world
      (.loaded content, engine, world)
  | .schemeTemplate name =>
      let (compiled, engine) := engine.schemeTemplate name
      (.scheme (compiled.map CompiledTemplate.template), engine, world)
  | .renderPage view context scheme? =>
      let (page, engine, world) := engine.renderPage storage view context scheme? world
      (.page page, engine, world)
  | .clearTemplates => (.done, engine.clearTemplates, world)
  | .clearViews => (.done, engine.withKeptViews engine.views.cache.clear, world)
  | .invalidate path =>
      (.done, engine.withKeptViews (engine.views.cache.invalidate path).2, world)
  | .invalidateUnder directory =>
      (.done, engine.withKeptViews (engine.views.cache.invalidateUnder directory), world)
  | .change next => (.done, engine, next)

/-- A step of a run, with the world in which it was made and the answer that it gave. -/
structure Moment (World : Type) where
  world : World
  step : Step World
  answer : Answer

/-- The moments of a run, in order. -/
def run (storage : Storage World) (engine : Engine) (world : World) :
    List (Step World) → List (Moment World)
  | [] => []
  | step :: rest =>
      let (answer, next, later) := engine.perform storage world step
      ⟨world, step, answer⟩ :: run storage next later rest

theorem run_cons (storage : Storage World) (engine : Engine) (world : World)
    (step : Step World) (rest : List (Step World)) :
    engine.run storage world (step :: rest) =
      ⟨world, step, (engine.perform storage world step).1⟩ ::
        (engine.perform storage world step).2.1.run storage
          (engine.perform storage world step).2.2 rest :=
  rfl

end PageTemplates.Engine
