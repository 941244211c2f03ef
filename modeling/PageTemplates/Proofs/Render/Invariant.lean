import PageTemplates.Render

/-! # What a render keeps

A render changes its session only by loading views and compiling them. What these two
keep of a session, the whole render keeps, whatever is included and however deep.
-/

namespace PageTemplates.Render

variable {World : Type}

/-- A property of sessions that no load and no compilation ends. -/
structure Keeps (storage : Storage World) (invariant : Session World → Prop) : Prop where
  load : ∀ name session, invariant session → invariant (session.load storage name).2
  compile : ∀ source session, invariant session → invariant (session.compile source).2

variable {storage : Storage World} {invariant : Session World → Prop}
  {follow : IncludeTarget → Session World → Rendered × Session World}

theorem segment_keeps
    (follows : ∀ target session, invariant session → invariant (follow target session).2)
    (context : Context) (part : Segment) (session : Session World)
    (holds : invariant session) : invariant (segment follow context session part).2 := by
  cases part with
  | text | path | rejected => exact holds
  | inclusion target => exact follows target session holds
  | expression value =>
      rw [segment]
      cases value.evaluate context <;> exact holds

theorem segments_keeps
    (follows : ∀ target session, invariant session → invariant (follow target session).2)
    (context : Context) (parts : List Segment) (session : Session World)
    (holds : invariant session) : invariant (segments follow context parts session).2 := by
  induction parts generalizing session with
  | nil => exact holds
  | cons first rest induction =>
      exact induction _ (segment_keeps follows context first session holds)

theorem inclusion_keeps (keeps : Keeps storage invariant) (context : Context)
    (levels : Nat) (target : IncludeTarget) (session : Session World)
    (holds : invariant session) :
    invariant (inclusion storage context levels target session).2 := by
  induction levels generalizing target session with
  | zero => exact holds
  | succ levels induction =>
      have loaded := keeps.load (target.resolve context) session holds
      rw [inclusion]
      generalize session.load storage (target.resolve context) = outcome at loaded ⊢
      rcases outcome with ⟨result, after⟩
      cases result with
      | error problem => exact loaded
      | ok content =>
          exact segments_keeps induction context _ _ (keeps.compile content after loaded)

theorem template_keeps (keeps : Keeps storage invariant) (context : Context)
    (levels : Nat) (rendered : Template) (session : Session World)
    (holds : invariant session) :
    invariant (template storage context levels rendered session).2 :=
  segments_keeps (inclusion_keeps keeps context levels) context rendered.segments session
    holds

end PageTemplates.Render
