import PageTemplates.Proofs.Render.DepthLimit

/-! # Rendering part by part

What a part renders depends on no other part. A document in two halves renders what the
halves render, one after the other. An include that fails could as well be an empty text,
its one error aside, and an include that succeeds could as well be the segments of its view,
unless the limit on nested includes is met.
-/

namespace PageTemplates

namespace Render

variable {World : Type}

/-! ## Two halves -/

theorem segments_append
    (follow : IncludeTarget → Session World → Rendered × Session World) (context : Context)
    (one other : List Segment) (session : Session World) :
    segments follow context (one ++ other) session =
      let (first, between) := segments follow context one session
      let (second, after) := segments follow context other between
      (first ++ second, after) := by
  induction one generalizing session with
  | nil => simp [segments]
  | cons part rest induction => simp [segments, induction, Rendered.append_assoc]

theorem fixedSegments_append (follow : IncludeTarget → Rendered) (context : Context)
    (one other : List Segment) :
    fixedSegments follow context (one ++ other) =
      fixedSegments follow context one ++ fixedSegments follow context other := by
  induction one with
  | nil => simp [fixedSegments]
  | cons part rest induction => simp [fixedSegments, induction, Rendered.append_assoc]

/-- What stands before and after a part stays beside what the part renders. -/
theorem fixedTemplate_append_cons (loads : Loads) (context : Context) (levels : Nat)
    (before : List Segment) (part : Segment) (after : List Segment) :
    fixedTemplate loads context levels ⟨before ++ part :: after⟩ =
      fixedTemplate loads context levels ⟨before⟩ ++
        (fixedSegment (fixedInclusion loads context levels) context part ++
          fixedTemplate loads context levels ⟨after⟩) :=
  fixedSegments_append ..

/-! ## One include -/

/-- The error that an include adds where `levels` more levels may be entered. -/
inductive Fails (loads : Loads) (context : Context) (target : IncludeTarget) :
    (levels : Nat) → RenderError → Prop
  | tooDeep : Fails loads context target 0 (.includeTooDeep (target.resolve context))
  | unloaded {levels problem} :
      loads (target.resolve context) = .error problem →
      Fails loads context target (levels + 1) problem

variable {loads : Loads} {context : Context} {levels : Nat} {target : IncludeTarget}

theorem fixedInclusion_of_fails {problem : RenderError}
    (fails : Fails loads context target levels problem) :
    fixedInclusion loads context levels target = ⟨"", [problem]⟩ := by
  cases fails with
  | tooDeep => rfl
  | unloaded failed =>
      rw [fixedInclusion, failed]
      rfl

theorem fixedInclusion_of_loaded {content : String}
    (loaded : loads (target.resolve context) = .ok content) :
    fixedInclusion loads context (levels + 1) target =
      fixedTemplate loads context levels (Template.compile content) := by
  rw [fixedInclusion, loaded]
  rfl

/-- Loading never fails with the error of an include at the limit. -/
theorem Fixes.loadable {storage : Storage World} {invariant : Session World → Prop}
    (fixes : Fixes storage loads invariant) {session : Session World}
    (holds : invariant session) (asked name : String) :
    loads asked ≠ .error (.includeTooDeep name) := by
  intro failed
  have loaded : (session.load storage asked).1 = loads asked :=
    (fixes.load asked session holds).1
  exact Views.load_ne_includeTooDeep storage asked session.views session.world name
    (loaded.trans failed)

/-- Where the limit is not met it can as well be higher. -/
theorem fixedTemplate_add {template : Template}
    (loadable : ∀ asked name, loads asked ≠ .error (.includeTooDeep name))
    (shallow : ∀ name, .includeTooDeep name ∉
      (fixedTemplate loads context levels template).errors) (more : Nat) :
    fixedTemplate loads context (levels + more) template =
      fixedTemplate loads context levels template := by
  have ended := (not_includeTooDeep_iff loadable).mp shallow
  have endedLater (target : IncludeTarget) : .included (levels + more) target ∉
      walk loads context (levels + more) template.segments := by
    intro met
    have before := depth_lt_of_ended ended met
    omega
  exact (reference_of_ended endedLater).unique (reference_of_ended ended)

/-- Unless the limit is met, an include is what the segments of its view are in its
place. -/
theorem fixedInclusion_of_shallow {content : String}
    (loadable : ∀ asked name, loads asked ≠ .error (.includeTooDeep name))
    (loaded : loads (target.resolve context) = .ok content)
    (shallow : ∀ name, .includeTooDeep name ∉
      (fixedInclusion loads context levels target).errors) :
    fixedInclusion loads context levels target =
      fixedTemplate loads context levels (Template.compile content) := by
  cases levels with
  | zero => exact absurd (List.mem_singleton.mpr rfl) (shallow (target.resolve context))
  | succ levels =>
      rw [fixedInclusion_of_loaded loaded] at shallow ⊢
      exact (fixedTemplate_add loadable shallow 1).symm

/-! ## Parts beside others -/

/-- Rendering goes part by part. The second half of a document goes on from the session
that the first half leaves, and with fixed loads its output and its errors do not depend on
that: they follow those of the first half as each half has them alone. So an include that
fails can be replaced by an empty text for its one error; and an include that is loaded can
be replaced by the segments of its view if no include is met at the limit. -/
theorem template_append {storage : Storage World} {invariant : Session World → Prop}
    (fixes : Fixes storage loads invariant) (context : Context) (levels : Nat) :
    (∀ one other session,
      template storage context levels ⟨one ++ other⟩ session =
        let (first, between) := template storage context levels ⟨one⟩ session
        let (second, after) := template storage context levels ⟨other⟩ between
        (⟨first.output ++ second.output, first.errors ++ second.errors⟩, after)) ∧
    (∀ one other session later, invariant session → invariant later →
      let first := (template storage context levels ⟨one⟩ session).1
      let second := (template storage context levels ⟨other⟩ later).1
      (template storage context levels ⟨one ++ other⟩ session).1 =
        ⟨first.output ++ second.output, first.errors ++ second.errors⟩) ∧
    (∀ before target after problem session, invariant session →
      Fails loads context target levels problem →
      let first := (template storage context levels ⟨before⟩ session).1
      let second := (template storage context levels ⟨after⟩ session).1
      let failed := (template storage context levels
        ⟨before ++ .inclusion target :: after⟩ session).1
      let spared := (template storage context levels
        ⟨before ++ .text "" :: after⟩ session).1
      failed.output = spared.output ∧
        failed.errors = first.errors ++ problem :: second.errors ∧
        spared.errors = first.errors ++ second.errors) ∧
    (∀ before target after content session, invariant session →
      loads (target.resolve context) = .ok content →
      (∀ name, .includeTooDeep name ∉ (template storage context levels
        ⟨before ++ .inclusion target :: after⟩ session).1.errors) →
      (template storage context levels
          ⟨before ++ (Template.compile content).segments ++ after⟩ session).1 =
        (template storage context levels
          ⟨before ++ .inclusion target :: after⟩ session).1) := by
  have answer (parts : List Segment) (session : Session World) (holds : invariant session) :
      (template storage context levels ⟨parts⟩ session).1 =
        fixedTemplate loads context levels ⟨parts⟩ :=
    (template_answers fixes context levels ⟨parts⟩ session holds).1
  refine ⟨?_, ?_, ?_, ?_⟩
  · exact fun one other session => segments_append _ context one other session
  · intro one other session later holds laterHolds first second
    rw [answer _ session holds]
    have firstAnswer : first = _ := answer one session holds
    have secondAnswer : second = _ := answer other later laterHolds
    rw [firstAnswer, secondAnswer]
    exact fixedSegments_append _ context one other
  · intro before target after problem session holds fails first second failed spared
    have firstAnswer : first = _ := answer before session holds
    have secondAnswer : second = _ := answer after session holds
    have failedAnswer : failed = _ := answer _ session holds
    have sparedAnswer : spared = _ := answer _ session holds
    rw [fixedTemplate_append_cons, ← firstAnswer, ← secondAnswer] at failedAnswer sparedAnswer
    rw [fixedSegment, fixedInclusion_of_fails fails] at failedAnswer
    rw [failedAnswer, sparedAnswer]
    exact ⟨rfl, rfl, rfl⟩
  · intro before target after content session holds loaded shallow
    rw [answer _ session holds, fixedTemplate_append_cons] at shallow
    have nested (name : String) : .includeTooDeep name ∉
        (fixedInclusion loads context levels target).errors := by
      intro member
      exact shallow name (List.mem_append_right _ (List.mem_append_left _ member))
    rw [answer _ session holds, answer _ session holds, fixedTemplate_append_cons,
      fixedSegment, fixedInclusion_of_shallow (fixes.loadable holds) loaded nested,
      List.append_assoc]
    exact (fixedSegments_append ..).trans (congrArg _ (fixedSegments_append ..))

end Render

/-! A document that includes a view that is missing and one that is there. -/

def noteSource : String := "hi, \x7b\x7b name \x7d\x7d"

def noteFiles : FileTable :=
  FileTable.empty.write ⟨"views/note.html"⟩ ⟨noteSource, 1, none⟩

def noteEngine : Engine :=
  .fresh (Config.standard.withViews ⟨"views"⟩) .empty

def noteLoads : Render.Loads :=
  fun name => noteEngine.views.current FileTable.storage name noteFiles

def noteContext : Context := ⟨[("name", .string "Ann")], rfl⟩

/-- The sessions in which the files are as they were at first. -/
def NoteSession : Session FileTable → Prop :=
  Session.Coherent FileTable.storage (fun _ _ => .ok noteSource) noteEngine.views noteFiles

def renderNote (parts : List Segment) : Rendered :=
  (Render.template FileTable.storage noteContext 64 ⟨parts⟩ (noteEngine.session noteFiles)).1

open Render in
theorem renderNote_append :
    Fixes FileTable.storage noteLoads NoteSession ∧
      NoteSession (noteEngine.session noteFiles) ∧
      (renderNote [.text "<", .inclusion (.quoted "gone"), .inclusion (.quoted "note")]).errors =
        (renderNote [.text "<"]).errors ++ .viewNotFound ⟨"views/gone.html"⟩ ::
          (renderNote [.inclusion (.quoted "note")]).errors ∧
      renderNote ([.text "<", .inclusion (.quoted "gone")] ++
          (Template.compile noteSource).segments ++ []) =
        renderNote [.text "<", .inclusion (.quoted "gone"), .inclusion (.quoted "note")] := by
  have dated : FileTable.storage.Dated (fun _ _ => .ok noteSource) noteFiles :=
    Engine.dated_write_empty ⟨"views/note.html"⟩ noteSource 1 rfl
  have fixes : Fixes FileTable.storage noteLoads NoteSession :=
    Session.Coherent.fixes Engine.steady_fileTable noteEngine.views dated
  have coherent : NoteSession (noteEngine.session noteFiles) :=
    (Engine.coherent_fresh (fun _ _ => .ok noteSource)
      (Config.standard.withViews ⟨"views"⟩) .empty).session noteFiles
  have parts := template_append fixes noteContext 64
  have missing : noteLoads "gone" = .error (.viewNotFound ⟨"views/gone.html"⟩) := by
    decide +kernel
  have errors : (renderNote [.text "<", .inclusion (.quoted "gone"),
      .inclusion (.quoted "note")]).errors = [.viewNotFound ⟨"views/gone.html"⟩] := by
    decide +kernel
  have failed := parts.2.2.1 [.text "<"] (.quoted "gone") [.inclusion (.quoted "note")] _ _
    coherent (.unloaded missing)
  have inlined := parts.2.2.2 [.text "<", .inclusion (.quoted "gone")] (.quoted "note") []
    noteSource _ coherent (by decide +kernel)
  refine ⟨fixes, coherent, failed.2.1, inlined fun name member => ?_⟩
  change _ ∈ (renderNote [.text "<", .inclusion (.quoted "gone"),
    .inclusion (.quoted "note")]).errors at member
  rw [errors] at member
  simp at member

end PageTemplates
