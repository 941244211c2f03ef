import PageTemplates.Proofs.View.Reachable

/-! # Contexts that render alike

A render takes from its context what its segments show and the names of the views that
they ask for. Two contexts in which all segments within reach come to the same are
rendered alike: the same output, the same errors, and the same session afterwards.
-/

namespace PageTemplates

variable {World : Type}

/-- What an evaluated expression renders: its value, or nothing where it has none. -/
def Rendered.ofEvaluated : Except EvaluationError Value → Rendered
  | .ok value => .ofValue value
  | .error _ => .nothing

/-- Whether a segment shows the same in two contexts, or asks for the same view. -/
def Segment.SameIn (left right : Context) : Segment → Prop
  | .text _ | .rejected => True
  | .path names => Rendered.ofValue (left.lookup names) = .ofValue (right.lookup names)
  | .inclusion target => target.resolve left = target.resolve right
  | .expression value =>
      Rendered.ofEvaluated (value.evaluate left) = .ofEvaluated (value.evaluate right)

def Template.SameIn (left right : Context) (template : Template) : Prop :=
  ∀ part ∈ template.segments, part.SameIn left right

/-- Sources whose segments are the same in two contexts, once they are compiled. -/
def Template.CompilesSame (left right : Context) (source : String) : Prop :=
  (compile source).SameIn left right

namespace Render

variable {left right : Context} {invariant : Session World → Prop}
  {follow others : IncludeTarget → Session World → Rendered × Session World}

theorem segment_expression (context : Context) (session : Session World) (value : SafeExpr) :
    segment follow context session (.expression value) =
      (.ofEvaluated (value.evaluate context), session) := by
  rw [segment]
  cases value.evaluate context <;> rfl

theorem segment_sameIn {part : Segment} {session : Session World}
    (same : part.SameIn left right)
    (follows : ∀ target, part = .inclusion target →
      follow target session = others target session) :
    segment follow left session part = segment others right session part := by
  cases part with
  | text | rejected => rfl
  | path names => exact congrArg (·, session) same
  | inclusion target => exact follows target rfl
  | expression value =>
      rw [segment_expression, segment_expression]
      exact congrArg (·, session) same

theorem segments_sameIn {parts : List Segment} {session : Session World}
    (same : ∀ part ∈ parts, part.SameIn left right)
    (follows : ∀ target session, target.resolve left = target.resolve right →
      invariant session → follow target session = others target session)
    (keeps : ∀ target session, invariant session → invariant (others target session).2)
    (holds : invariant session) :
    segments follow left parts session = segments others right parts session := by
  induction parts generalizing session with
  | nil => rfl
  | cons first rest induction =>
      rw [List.forall_mem_cons] at same
      have firstEqual : segment follow left session first =
          segment others right session first :=
        segment_sameIn same.1 fun target asked =>
          follows target session (by simpa [asked, Segment.SameIn] using same.1) holds
      have restEqual := induction same.2 (segment_keeps keeps right first session holds)
      simp only [segments, firstEqual, restEqual]

/-- By induction on the levels that are left: the target names the same view, so the same
view is loaded, and what it is compiled to is the same in both contexts too. -/
theorem inclusion_sameIn (storage : Storage World) (levels : Nat) (target : IncludeTarget)
    (session : Session World) (asks : target.resolve left = target.resolve right)
    (meets : session.OnlyMeets storage (Template.CompilesSame left right)) :
    inclusion storage left levels target session =
      inclusion storage right levels target session := by
  induction levels generalizing target session with
  | zero => simp only [inclusion, asks]
  | succ levels induction =>
      have keeps := Session.OnlyMeets.keeps storage (Template.CompilesSame left right)
      have loaded := keeps.load (target.resolve right) session meets
      have accepted (content : String)
          (found : (session.load storage (target.resolve right)).1 = .ok content) :
          Template.CompilesSame left right content :=
        meets.content_of_load found
      simp only [inclusion, asks]
      generalize session.load storage (target.resolve right) = outcome at loaded accepted ⊢
      rcases outcome with ⟨result, after⟩
      cases result with
      | error problem => rfl
      | ok content =>
          have compiled : (after.compile content).1 = Template.compile content :=
            (loaded.templates.get content).1
          have same : (after.compile content).1.SameIn left right :=
            compiled ▸ accepted content rfl
          exact segments_sameIn same (fun target session asks => induction target session asks)
            (inclusion_keeps keeps right levels) (keeps.compile content after loaded)

end Render

theorem Template.render_sameIn (storage : Storage World) {left right : Context}
    {template : Template} {session : Session World} (same : template.SameIn left right)
    (meets : session.OnlyMeets storage (CompilesSame left right)) :
    template.render storage left session = template.render storage right session :=
  Render.segments_sameIn same (Render.inclusion_sameIn storage includeLevels)
    (Render.inclusion_keeps (Session.OnlyMeets.keeps storage (CompilesSame left right)) right
      includeLevels) meets

end PageTemplates
