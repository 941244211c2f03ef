import PageTemplates.Render

/-! # Rendering with fixed loads

What a render makes once the outcome of loading each name is fixed: the same recursion
over segments and levels, without caches and without storage. A session makes exactly
that if its loads come out as fixed and stay so, whatever the render loads and compiles.
-/

namespace PageTemplates.Render

variable {World : Type}

/-- The outcome of loading each name. -/
abbrev Loads := String → Except RenderError String

def fixedSegment (follow : IncludeTarget → Rendered) (context : Context) :
    Segment → Rendered
  | .text content => .ofText content
  | .path names => .ofValue (context.lookup names)
  | .inclusion target => follow target
  | .expression value =>
      match value.evaluate context with
      | .ok value => .ofValue value
      | .error _ => .nothing
  | .rejected => .nothing

def fixedSegments (follow : IncludeTarget → Rendered) (context : Context) :
    List Segment → Rendered
  | [] => .nothing
  | first :: rest =>
      fixedSegment follow context first ++ fixedSegments follow context rest

/-- What an include renders where `levels` more levels may be entered. -/
def fixedInclusion (loads : Loads) (context : Context) (levels : Nat)
    (target : IncludeTarget) : Rendered :=
  let name := target.resolve context
  match levels with
  | 0 => .ofError (.includeTooDeep name)
  | levels + 1 =>
      match loads name with
      | .error error => .ofError error
      | .ok content =>
          fixedSegments (fixedInclusion loads context levels) context
            (Template.compile content).segments

/-- What a template renders where `levels` levels of includes may be entered. -/
def fixedTemplate (loads : Loads) (context : Context) (levels : Nat)
    (template : Template) : Rendered :=
  fixedSegments (fixedInclusion loads context levels) context template.segments

/-! ## Sessions that keep to fixed loads -/

/-- In every session with the invariant the action gives the same answer, and leaves a
session with the invariant. -/
def Answers {Answer : Type} (invariant : Session World → Prop)
    (action : Session World → Answer × Session World) (answer : Answer) : Prop :=
  ∀ session, invariant session →
    (action session).1 = answer ∧ invariant (action session).2

/-- An invariant under which every load comes out as fixed and every template is the
compilation of its source. -/
structure Fixes (storage : Storage World) (loads : Loads)
    (invariant : Session World → Prop) : Prop where
  load : ∀ name, Answers invariant (fun session => session.load storage name) (loads name)
  compile : ∀ source,
    Answers invariant (fun session => session.compile source) (Template.compile source)

variable {invariant : Session World → Prop}
  {follow : IncludeTarget → Session World → Rendered × Session World}
  {fixed : IncludeTarget → Rendered}

theorem segment_answers (follows : ∀ target, Answers invariant (follow target) (fixed target))
    (context : Context) (part : Segment) :
    Answers invariant (fun session => segment follow context session part)
      (fixedSegment fixed context part) := by
  intro session holds
  cases part with
  | text | path | rejected => exact ⟨rfl, holds⟩
  | inclusion target => exact follows target session holds
  | expression value =>
      simp only [segment, fixedSegment]
      cases value.evaluate context <;> exact ⟨rfl, holds⟩

theorem segments_answers (follows : ∀ target, Answers invariant (follow target) (fixed target))
    (context : Context) (parts : List Segment) :
    Answers invariant (segments follow context parts)
      (fixedSegments fixed context parts) := by
  induction parts with
  | nil => exact fun session holds => ⟨rfl, holds⟩
  | cons first rest induction =>
      intro session holds
      have firstAnswer := segment_answers follows context first session holds
      have restAnswer := induction _ firstAnswer.2
      refine ⟨?_, restAnswer.2⟩
      rw [fixedSegments, ← firstAnswer.1, ← restAnswer.1]
      rfl

theorem inclusion_answers {storage : Storage World} {loads : Loads}
    (fixes : Fixes storage loads invariant) (context : Context) (levels : Nat)
    (target : IncludeTarget) :
    Answers invariant (inclusion storage context levels target)
      (fixedInclusion loads context levels target) := by
  induction levels generalizing target with
  | zero => exact fun session holds => ⟨rfl, holds⟩
  | succ levels induction =>
      intro session holds
      have loaded : (session.load storage (target.resolve context)).1 =
          loads (target.resolve context) ∧
            invariant (session.load storage (target.resolve context)).2 :=
        fixes.load (target.resolve context) session holds
      rw [inclusion, fixedInclusion, ← loaded.1]
      generalize session.load storage (target.resolve context) = outcome at loaded ⊢
      rcases outcome with ⟨result, after⟩
      cases result with
      | error problem => exact ⟨rfl, loaded.2⟩
      | ok content =>
          have compiled := fixes.compile content after loaded.2
          simp only [← compiled.1]
          exact segments_answers induction context _ _ compiled.2

theorem template_answers {storage : Storage World} {loads : Loads}
    (fixes : Fixes storage loads invariant) (context : Context) (levels : Nat)
    (rendered : Template) :
    Answers invariant (template storage context levels rendered)
      (fixedTemplate loads context levels rendered) :=
  segments_answers (inclusion_answers fixes context levels) context rendered.segments

end PageTemplates.Render
