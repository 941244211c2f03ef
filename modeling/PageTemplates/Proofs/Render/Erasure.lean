import PageTemplates.Proofs.Evaluation.ErasedContext
import PageTemplates.Proofs.Render.Agreement

/-! # Rendering an erased context

A page without equalities is the same whether its data or the erasure of the data is
rendered: the same text, the same errors, and the same calls to the storage. This needs
that no view within reach has an equality either.
-/

namespace PageTemplates

variable {World : Type}

/-! ## Equalities -/

/-- Whether the segment evaluates an equality. -/
def Segment.usesEquality : Segment → Bool
  | .expression value => value.tree.usesEquality
  | _ => false

def Template.usesEquality (template : Template) : Bool :=
  template.segments.any Segment.usesEquality

/-- Sources of templates without equalities. -/
def Template.FreeOfEquality (source : String) : Prop :=
  (Template.compile source).usesEquality = false

instance (source : String) : Decidable (Template.FreeOfEquality source) :=
  inferInstanceAs (Decidable (_ = false))

/-! ## Rendering -/

@[simp]
theorem Rendered.ofValue_erase (value : Value) : ofValue value.erase = ofValue value := by
  simp [ofValue]

theorem Segment.sameIn_erase {part : Segment} (free : part.usesEquality = false)
    (context : Context) : part.SameIn context.erase context := by
  cases part with
  | text | rejected => trivial
  | path names => simp [SameIn]
  | inclusion target => exact target.resolve_erase context
  | expression value =>
      rw [SameIn, value.evaluate_erase context free]
      cases value.evaluate context with
      | error problem => rfl
      | ok found => exact Rendered.ofValue_erase found

theorem Template.sameIn_erase {template : Template} (free : template.usesEquality = false)
    (context : Context) : template.SameIn context.erase context := by
  have parts : ∀ part ∈ template.segments, part.usesEquality = false := by
    simpa [usesEquality] using free
  exact fun part member => Segment.sameIn_erase (parts part member) context

/-! ## What is invisible -/

theorem Template.render_of_erased (storage : Storage World) (template : Template)
    (context : Context) (session : Session World) (free : template.usesEquality = false)
    (meets : session.OnlyMeets storage FreeOfEquality) :
    template.render storage context.erase session = template.render storage context session :=
  render_sameIn storage (sameIn_erase free context)
    (meets.imp fun _ free => sameIn_erase free context)

theorem SafeExpr.map_erase_evaluate (expression : SafeExpr) (context : Context)
    (free : expression.tree.usesEquality = false) :
    (expression.evaluate context.erase).map Value.erase =
      (expression.evaluate context).map Value.erase := by
  rw [expression.evaluate_erase context free]
  cases expression.evaluate context with
  | error problem => rfl
  | ok value => exact congrArg Except.ok value.erase_erase

namespace Erasure

/-- The comparison of two variables by strict equality. -/
def comparison : SafeExpr where
  tree := .binary .strictEqual (.identifier "left") (.identifier "right")
  safe := by decide

/-- Two objects that differ in the entry of a denied name. -/
def objects : Context :=
  ⟨[("left", .object []), ("right", .object [("constructor", .null)])], by decide +kernel⟩

theorem render_comparison (storage : Storage World) (session : Session World) :
    ((Template.mk [.expression comparison]).render storage objects session).1.output =
        "false" ∧
      ((Template.mk [.expression comparison]).render storage objects.erase session).1.output =
        "true" :=
  ⟨rfl, rfl⟩

end Erasure

/-- What data stores under denied names is invisible without equalities: a page is rendered
of the erasure as of the data, with the same calls to the storage, and an expression has
the same error there or a value with the same erasure. Two objects of the data may be
equal in the erasure alone. -/
theorem Template.render_erase :
    (∀ {World : Type} (storage : Storage World) (template : Template) (context : Context)
      (session : Session (Storage.Traced World)), template.usesEquality = false →
      session.OnlyMeets storage.traced FreeOfEquality →
      template.render storage.traced context.erase session =
        template.render storage.traced context session) ∧
    (∀ (expression : SafeExpr) (context : Context), expression.tree.usesEquality = false →
      (expression.evaluate context.erase).map Value.erase =
        (expression.evaluate context).map Value.erase) ∧
    ∃ (expression : SafeExpr) (context : Context) (left right : String)
      (leftEntries rightEntries : List (String × Json)),
      expression.tree = .binary .strictEqual (.identifier left) (.identifier right) ∧
      context.get? left = some (.object leftEntries) ∧
      context.get? right = some (.object rightEntries) ∧
      ∀ {World : Type} (storage : Storage World) (session : Session World),
        ((Template.mk [.expression expression]).render storage context session).1.output ≠
          ((Template.mk [.expression expression]).render storage context.erase
            session).1.output := by
  refine ⟨fun storage template context session free meets => ?_, ?_, ?_⟩
  · exact template.render_of_erased storage.traced context session free meets
  · exact fun expression context free => expression.map_erase_evaluate context free
  · refine ⟨Erasure.comparison, Erasure.objects, "left", "right", _, _, rfl, rfl, rfl, ?_⟩
    intro World storage session
    rw [(Erasure.render_comparison storage session).1,
      (Erasure.render_comparison storage session).2]
    decide

/-! A page whose data has a constructor. -/

namespace Erasure

/-- A storage whose files all have the same text. -/
def sameText (text : String) : Storage Unit where
  modified _ world := (.ok 0, world)
  read _ world := (.ok text, world)
  clock _ := 0
  canWatch _ _ := false

def viewSource : String := "+\x7b\x7b page.title \x7d\x7d"

def page : Context :=
  ⟨[("page", .object [("constructor", .null), ("title", .string "home")])], by decide +kernel⟩

/-- The path `page.title` before an include. -/
def template : Template := ⟨[.path ["page", "title"], .inclusion (.quoted "view")]⟩

/-- Whether the page has a constructor of its own. -/
def search : SafeExpr where
  tree := .binary .within (.literal (.string "constructor")) (.identifier "page")
  safe := by decide

def session : Session (Storage.Traced Unit) where
  templates := .empty
  views := ⟨some ⟨"views"⟩, .empty 1, .empty false⟩
  world := ⟨(), []⟩

end Erasure

open Erasure in
theorem Template.render_erase_constructor :
    template.usesEquality = false ∧
      session.OnlyMeets (sameText viewSource).traced FreeOfEquality ∧
      template.render (sameText viewSource).traced page.erase session =
        template.render (sameText viewSource).traced page session ∧
      search.tree.usesEquality = false ∧
      (search.evaluate page.erase).map Value.erase =
        (search.evaluate page).map Value.erase := by
  have meets : session.OnlyMeets (sameText viewSource).traced FreeOfEquality := by
    refine ⟨TemplateCache.faithful_empty, nofun, ?_⟩
    intro world leads path text read
    cases read
    have joined : Text.normalizeLines viewSource = viewSource := by decide +kernel
    rw [joined]
    decide +kernel
  have rendered := Template.render_erase.1 (sameText viewSource) template page session rfl
    meets
  have evaluated := Template.render_erase.2.1 search page rfl
  exact ⟨rfl, meets, rendered, rfl, evaluated⟩

end PageTemplates
