import PageTemplates.Text.Lines
import PageTemplates.View.Cache
import PageTemplates.View.Target
import PageTemplates.View.Watch

/-! # Views

The files that includes are made from, all under one directory. Loading a view asks the
storage for the modification time first and reads the file only if no fresh content is
kept.
-/

namespace PageTemplates

structure Views where
  root? : Option Path
  cache : ViewCache
  watches : WatchRegistry

namespace Views

def ending : String := ".html"

def pathOf (views : Views) (name : String) : Except RenderError Path :=
  match views.root? with
  | none => .error .missingViewsDirectory
  | some root =>
      match ViewName.refusal? name with
      | some error => .error error
      | none => .ok (root.join ⟨name ++ ending⟩)

def watchRoot {World : Type} (views : Views) (storage : Storage World) (world : World) :
    Views :=
  match views.root? with
  | none => views
  | some root =>
      { views with watches := views.watches.ensure root (storage.canWatch root world) }

@[simp]
theorem watchRoot_root? {World : Type} (storage : Storage World) (views : Views)
    (world : World) : (views.watchRoot storage world).root? = views.root? := by
  unfold watchRoot
  cases root : views.root? <;> simp [root]

@[simp]
theorem watchRoot_cache {World : Type} (storage : Storage World) (views : Views)
    (world : World) : (views.watchRoot storage world).cache = views.cache := by
  unfold watchRoot
  cases views.root? <;> rfl

/-- The content of the file of a view, kept or read. -/
def fetch {World : Type} (storage : Storage World) (path : Path) (views : Views)
    (world : World) : Except RenderError String × Views × World :=
  match storage.modified path world with
  | (.error failure, world) => (.error (.ofFailure path failure), views, world)
  | (.ok modified, world) =>
      match views.cache.fresh? path modified (storage.clock world) with
      | some content => (.ok content, views, world)
      | none =>
          match storage.read path world with
          | (.error failure, world) => (.error (.ofFailure path failure), views, world)
          | (.ok text, world) =>
              let content := Text.normalizeLines text
              let cache := views.cache.store path content modified (storage.clock world)
              (.ok content, { views with cache := cache }, world)

/-- The content of the view of a name, with its line endings joined. -/
def load {World : Type} (storage : Storage World) (name : String) (views : Views)
    (world : World) : Except RenderError String × Views × World :=
  match views.pathOf name with
  | .error error => (.error error, views, world)
  | .ok path => fetch storage path (views.watchRoot storage world) world

end Views

end PageTemplates
