import PageTemplates.Config
import PageTemplates.Page
import PageTemplates.Render
import PageTemplates.Scheme

/-! # Engines

An engine holds what renders share: the compiled templates, the kept views and the
loaded schemes. A page is a scheme rendered with the data of the request, in which
`file_name` is the name of the view that the scheme is to include.
-/

namespace PageTemplates

structure Engine where
  config : Config
  templates : TemplateCache
  views : Views
  schemes : SchemeStore

namespace Engine

def ofConfig (config : Config) : Engine where
  config := config
  templates := .empty
  views := {
    root? := config.views?
    cache := .empty config.lifetime
    watches := .empty config.watchViews }
  schemes := .empty

variable {World : Type}

def session (engine : Engine) (world : World) : Session World where
  templates := engine.templates
  views := engine.views
  world := world

def resume (engine : Engine) (session : Session World) : Engine :=
  { engine with templates := session.templates, views := session.views }

/-- The template of a source, compiled if it is not kept. -/
def compile (engine : Engine) (source : String) : CompiledTemplate × Engine :=
  let (compiled, templates) := engine.templates.get source
  (compiled, { engine with templates := templates })

def render (storage : Storage World) (engine : Engine) (template : Template)
    (context : Context) (world : World) : Rendered × Engine × World :=
  let (rendered, session) := template.render storage context (engine.session world)
  (rendered, engine.resume session, session.world)

def renderSource (storage : Storage World) (engine : Engine) (source : String)
    (context : Context) (world : World) : Rendered × Engine × World :=
  let (compiled, engine) := engine.compile source
  engine.render storage compiled.template context world

def load (storage : Storage World) (engine : Engine) (name : String) (world : World) :
    Except RenderError String × Engine × World :=
  let (content, session) := (engine.session world).load storage name
  (content, engine.resume session, session.world)

/-- The template of a scheme. An empty scheme counts as none. -/
def schemeTemplate (engine : Engine) (name : String) :
    Except RenderError CompiledTemplate × Engine :=
  match engine.schemes.get? name with
  | none => (.error (.unresolvedScheme name), engine)
  | some scheme =>
      if scheme.html.isEmpty then
        (.error (.unresolvedScheme name), engine)
      else
        let (compiled, engine) := engine.compile scheme.html
        (.ok compiled, engine)

/-! ## Pages -/

/-- The name of the scheme of a page: the one asked for, else the one that the data
names under `_scheme`, else the one of the configuration, else the empty name. -/
def schemeName (engine : Engine) (context : Context) (scheme? : Option String) : String :=
  match scheme? with
  | some name => name
  | none =>
      match context.get? "_scheme" with
      | some (.string name) => name
      | _ => engine.config.defaultScheme?.getD ""

def finish (engine : Engine) (rendered : Rendered) : Page :=
  if rendered.isClean || engine.config.ignoreErrors then .html rendered.output
  else .failure .renderFailed

def renderPage (storage : Storage World) (engine : Engine) (view : String)
    (context : Context) (scheme? : Option String) (world : World) :
    Page × Engine × World :=
  match engine.schemeTemplate (engine.schemeName context scheme?) with
  | (.error _, engine) => (.failure .schemeNotFound, engine, world)
  | (.ok compiled, engine) =>
      let context := context.insert "file_name" (.string view)
      let (rendered, engine, world) :=
        engine.render storage compiled.template context world
      (engine.finish rendered, engine, world)

/-! ## Clearing -/

def clearTemplates (engine : Engine) : Engine :=
  { engine with templates := engine.templates.clear }

def withKeptViews (engine : Engine) (cache : ViewCache) : Engine :=
  { engine with views := { engine.views with cache := cache } }

def withSchemes (engine : Engine) (schemes : SchemeStore) : Engine :=
  { engine with schemes := schemes }

end Engine

end PageTemplates
