import Mathlib.Data.List.Basic
import PageTemplates.Proofs.Render.Fixed

/-! # Rendering without a limit

What a template renders where includes nest as deep as they like. Views that include each
other in a circle have no such rendering. Beside it stands the walk through a document to
some depth, which lists the texts shown and the includes met on the way. What is rendered
within a limit is read off the walk to that depth, and it is the rendering without a limit
exactly where the walk meets no include at the limit.
-/

namespace PageTemplates.Render

/-! ## The reference -/

/-- What a page shows of a value, escaped. -/
def shownText (value : Value) : String :=
  (value.shown?.map Text.escapeMarkup).getD ""

/-- The text that a part shows by itself. -/
def ownText (context : Context) : Segment → String
  | .text content => content
  | .path names => shownText (context.lookup names)
  | .expression value =>
      match value.evaluate context with
      | .ok value => shownText value
      | .error _ => ""
  | .inclusion _ | .rejected => ""

/-- What parts render where nothing limits how deep includes nest. -/
inductive Reference (loads : Loads) (context : Context) : List Segment → Rendered → Prop
  | nil : Reference loads context [] ⟨"", []⟩
  | shown {part rest others} :
      part.isInclusion = false →
      Reference loads context rest others →
      Reference loads context (part :: rest) (⟨ownText context part, []⟩ ++ others)
  | included {target content inner rest others} :
      loads (target.resolve context) = .ok content →
      Reference loads context (Template.compile content).segments inner →
      Reference loads context rest others →
      Reference loads context (.inclusion target :: rest) (inner ++ others)
  | failed {target problem rest others} :
      loads (target.resolve context) = .error problem →
      Reference loads context rest others →
      Reference loads context (.inclusion target :: rest) (⟨"", [problem]⟩ ++ others)

theorem Reference.unique {loads : Loads} {context : Context} {parts : List Segment}
    {one other : Rendered} (first : Reference loads context parts one)
    (second : Reference loads context parts other) : one = other := by
  induction first generalizing other with
  | nil =>
      cases second
      rfl
  | shown plain _ rest =>
      cases second with
      | shown _ others => rw [rest others]
      | included => cases plain
      | failed => cases plain
  | included loaded _ _ inner rest =>
      cases second with
      | shown plain => cases plain
      | included again nested others =>
          cases loaded.symm.trans again
          rw [inner nested, rest others]
      | failed again => cases loaded.symm.trans again
  | failed loaded _ rest =>
      cases second with
      | shown plain => cases plain
      | included again => cases loaded.symm.trans again
      | failed again others =>
          cases loaded.symm.trans again
          rw [rest others]

/-! ## The walk -/

/-- What is met on the way through a document. -/
inductive Event
  | shown (text : String)
  | included (depth : Nat) (target : IncludeTarget)

def walkSegment (enter : IncludeTarget → List Event) (context : Context) :
    Segment → List Event
  | .inclusion target => enter target
  | part => [.shown (ownText context part)]

/-- The parts that an include enters: none where its view cannot be loaded. -/
def Loads.entered (loads : Loads) (context : Context) (target : IncludeTarget) :
    List Segment :=
  match loads (target.resolve context) with
  | .ok content => (Template.compile content).segments
  | .error _ => []

/-- An include at a depth, and what is met inside its view as far as `levels` levels
deeper. -/
def walkInclusion (loads : Loads) (context : Context) :
    (levels depth : Nat) → IncludeTarget → List Event
  | 0, depth, target => [.included depth target]
  | levels + 1, depth, target =>
      .included depth target ::
        (loads.entered context target).flatMap
          (walkSegment (walkInclusion loads context levels (depth + 1)) context)

/-- What is met in parts, the includes among them at depth 0, down to the depth
`levels`. -/
def walk (loads : Loads) (context : Context) (levels : Nat) (parts : List Segment) :
    List Event :=
  parts.flatMap (walkSegment (walkInclusion loads context levels 0) context)

variable {loads : Loads} {context : Context}

theorem walkSegment_of_plain {enter : IncludeTarget → List Event} {part : Segment}
    (plain : part.isInclusion = false) :
    walkSegment enter context part = [.shown (ownText context part)] := by
  cases part with
  | inclusion => cases plain
  | text | path | expression | rejected => rfl

theorem mem_walk_parts {enter : IncludeTarget → List Event} {parts : List Segment}
    {depth : Nat} {target : IncludeTarget} :
    .included depth target ∈ parts.flatMap (walkSegment enter context) ↔
      ∃ outer, .inclusion outer ∈ parts ∧ .included depth target ∈ enter outer := by
  rw [List.mem_flatMap]
  constructor
  · rintro ⟨part, member, met⟩
    cases part with
    | inclusion outer => exact ⟨outer, member, met⟩
    | text | path | expression | rejected => simp [walkSegment] at met
  · rintro ⟨outer, member, met⟩
    exact ⟨.inclusion outer, member, met⟩

/-- The includes met from a depth on, down to some levels deeper, lie between the two. -/
theorem depth_of_mem_walkInclusion {levels depth met : Nat}
    {outer target : IncludeTarget}
    (member : .included met target ∈ walkInclusion loads context levels depth outer) :
    depth ≤ met ∧ met ≤ depth + levels := by
  induction levels generalizing depth outer with
  | zero =>
      simp only [walkInclusion, List.mem_singleton, Event.included.injEq] at member
      omega
  | succ levels induction =>
      rw [walkInclusion, List.mem_cons] at member
      rcases member with here | deeper
      · simp only [Event.included.injEq] at here
        omega
      · rcases mem_walk_parts.mp deeper with ⟨inner, _, among⟩
        have bounds := induction among
        omega

theorem depth_le_of_mem_walk {levels depth : Nat} {parts : List Segment}
    {target : IncludeTarget} (member : .included depth target ∈ walk loads context levels parts) :
    depth ≤ levels := by
  rcases mem_walk_parts.mp member with ⟨outer, _, among⟩
  have bounds := depth_of_mem_walkInclusion among
  omega

/-- A walk that meets no include at its last depth goes no further with more levels. -/
theorem walkInclusion_add {levels depth : Nat} {outer : IncludeTarget}
    (ended : ∀ target,
      .included (depth + levels) target ∉ walkInclusion loads context levels depth outer)
    (more : Nat) :
    walkInclusion loads context (levels + more) depth outer =
      walkInclusion loads context levels depth outer := by
  induction levels generalizing depth outer with
  | zero => exact absurd (List.mem_singleton.mpr rfl) (ended outer)
  | succ levels induction =>
      rw [Nat.succ_add, walkInclusion, walkInclusion]
      congr 1
      apply List.flatMap_congr
      intro part member
      cases part with
      | text | path | expression | rejected => rfl
      | inclusion inner =>
          apply induction
          intro target met
          apply ended target
          have deeper : depth + (levels + 1) = depth + 1 + levels := by omega
          rw [deeper, walkInclusion]
          exact List.mem_cons_of_mem _ (mem_walk_parts.mpr ⟨inner, member, met⟩)

theorem walk_add {levels : Nat} {parts : List Segment}
    (ended : ∀ target, .included levels target ∉ walk loads context levels parts)
    (more : Nat) :
    walk loads context (levels + more) parts = walk loads context levels parts := by
  apply List.flatMap_congr
  intro part member
  cases part with
  | text | path | expression | rejected => rfl
  | inclusion outer =>
      apply walkInclusion_add
      intro target met
      rw [Nat.zero_add] at met
      exact ended target (mem_walk_parts.mpr ⟨outer, member, met⟩)

/-- If a walk meets no include at its last depth, none is ever met as deep or deeper. -/
theorem depth_lt_of_ended {levels : Nat} {parts : List Segment}
    (ended : ∀ target, .included levels target ∉ walk loads context levels parts)
    {others depth : Nat} {target : IncludeTarget}
    (member : .included depth target ∈ walk loads context others parts) :
    depth < levels := by
  rcases Nat.lt_or_ge others levels with fewer | more
  · exact Nat.lt_of_le_of_lt (depth_le_of_mem_walk member) fewer
  · rcases Nat.exists_eq_add_of_le more with ⟨extra, rfl⟩
    rw [walk_add ended] at member
    apply Nat.lt_of_le_of_ne (depth_le_of_mem_walk member)
    rintro rfl
    exact ended target member

/-! ## What is rendered within a limit -/

def Event.text : Event → String
  | .shown text => text
  | .included _ _ => ""

/-- The error that an event adds. An include at the limit is not loaded. -/
def Event.problem? (loads : Loads) (context : Context) (limit : Nat) :
    Event → Option RenderError
  | .shown _ => none
  | .included depth target =>
      if depth < limit then
        match loads (target.resolve context) with
        | .ok _ => none
        | .error problem => some problem
      else
        some (.includeTooDeep (target.resolve context))

/-- What events add up to: the texts shown, and the errors in the order of the
document. -/
def ofEvents (loads : Loads) (context : Context) (limit : Nat) (events : List Event) :
    Rendered where
  output := String.join (events.map Event.text)
  errors := events.filterMap (Event.problem? loads context limit)

theorem ofEvents_append (limit : Nat) (one other : List Event) :
    ofEvents loads context limit (one ++ other) =
      ofEvents loads context limit one ++ ofEvents loads context limit other := by
  simp only [ofEvents, List.map_append, String.join_append, List.filterMap_append]
  rfl

theorem ofValue_eq (value : Value) : Rendered.ofValue value = ⟨shownText value, []⟩ := by
  unfold Rendered.ofValue shownText
  cases value.shown? <;> rfl

theorem fixedSegment_of_plain {follow : IncludeTarget → Rendered} {part : Segment}
    (plain : part.isInclusion = false) :
    fixedSegment follow context part = ⟨ownText context part, []⟩ := by
  cases part with
  | inclusion => cases plain
  | text | rejected => rfl
  | path names => exact ofValue_eq _
  | expression value =>
      rw [fixedSegment, ownText]
      cases value.evaluate context with
      | ok value => exact ofValue_eq value
      | error problem => rfl

theorem fixedSegments_eq_ofEvents {limit : Nat} {follow : IncludeTarget → Rendered}
    {enter : IncludeTarget → List Event}
    (follows : ∀ target, follow target = ofEvents loads context limit (enter target))
    (parts : List Segment) :
    fixedSegments follow context parts =
      ofEvents loads context limit (parts.flatMap (walkSegment enter context)) := by
  induction parts with
  | nil => rfl
  | cons part rest induction =>
      rw [fixedSegments, List.flatMap_cons, ofEvents_append, induction]
      congr 1
      cases part with
      | inclusion target => exact follows target
      | text | path | expression | rejected =>
          rw [fixedSegment_of_plain rfl, walkSegment_of_plain rfl]
          simp [ofEvents, Event.text, Event.problem?]

theorem fixedInclusion_eq_ofEvents {limit levels depth : Nat}
    (sum : depth + levels = limit) (target : IncludeTarget) :
    fixedInclusion loads context levels target =
      ofEvents loads context limit (walkInclusion loads context levels depth target) := by
  induction levels generalizing depth target with
  | zero =>
      have reached : ¬ depth < limit := by omega
      simp [fixedInclusion, ofEvents, walkInclusion, Event.text, Event.problem?, reached,
        Rendered.ofError]
  | succ levels induction =>
      have below : depth < limit := by omega
      have deeper : depth + 1 + levels = limit := by omega
      have nested := fixedSegments_eq_ofEvents (induction deeper)
      rw [walkInclusion, ← List.singleton_append, ofEvents_append, ← nested, Loads.entered,
        fixedInclusion]
      cases loaded : loads (target.resolve context) with
      | error problem =>
          have own : ofEvents loads context limit [.included depth target] =
              .ofError problem := by
            simp [ofEvents, Event.text, Event.problem?, below, loaded, Rendered.ofError]
          simp [own, fixedSegments]
      | ok content =>
          have own : ofEvents loads context limit [.included depth target] = .nothing := by
            simp [ofEvents, Event.text, Event.problem?, below, loaded, Rendered.nothing]
          simp [own]

theorem fixedTemplate_eq_ofEvents (levels : Nat) (template : Template) :
    fixedTemplate loads context levels template =
      ofEvents loads context levels (walk loads context levels template.segments) :=
  fixedSegments_eq_ofEvents (fixedInclusion_eq_ofEvents (Nat.zero_add levels))
    template.segments

/-! ## Where the limit is not met -/

theorem reference_segments {levels depth : Nat}
    (follows : ∀ target,
      (∀ last, .included (depth + levels) last ∉
        walkInclusion loads context levels depth target) →
      ∀ rest others, Reference loads context rest others →
        Reference loads context (.inclusion target :: rest)
          (fixedInclusion loads context levels target ++ others))
    (parts : List Segment)
    (ended : ∀ last, .included (depth + levels) last ∉
      parts.flatMap (walkSegment (walkInclusion loads context levels depth) context)) :
    Reference loads context parts
      (fixedSegments (fixedInclusion loads context levels) context parts) := by
  induction parts with
  | nil => exact .nil
  | cons part rest induction =>
      have others := induction fun last met => ended last (by
        rw [List.flatMap_cons]
        exact List.mem_append_right _ met)
      cases part with
      | inclusion target =>
          refine follows target (fun last met => ended last ?_) rest _ others
          rw [List.flatMap_cons]
          exact List.mem_append_left _ met
      | text | path | expression | rejected =>
          rw [fixedSegments, fixedSegment_of_plain rfl]
          exact .shown rfl others

theorem reference_inclusion (levels depth : Nat) (target : IncludeTarget)
    (ended : ∀ last, .included (depth + levels) last ∉
      walkInclusion loads context levels depth target)
    (rest : List Segment) (others : Rendered) (after : Reference loads context rest others) :
    Reference loads context (.inclusion target :: rest)
      (fixedInclusion loads context levels target ++ others) := by
  induction levels generalizing depth target rest others with
  | zero => exact absurd (List.mem_singleton.mpr rfl) (ended target)
  | succ levels induction =>
      have deeper : depth + (levels + 1) = depth + 1 + levels := by omega
      rw [fixedInclusion]
      cases loaded : loads (target.resolve context) with
      | error problem => exact .failed loaded after
      | ok content =>
          refine .included loaded ?_ after
          apply reference_segments (induction (depth + 1))
          intro last met
          apply ended last
          rw [deeper, walkInclusion, Loads.entered, loaded]
          exact List.mem_cons_of_mem _ met

/-- What is rendered within a limit is the reference, if no include is met at the
limit. -/
theorem reference_of_ended {levels : Nat} {template : Template}
    (ended : ∀ target, .included levels target ∉
      walk loads context levels template.segments) :
    Reference loads context template.segments
      (fixedTemplate loads context levels template) := by
  apply reference_segments (reference_inclusion levels 0)
  rwa [Nat.zero_add]

end PageTemplates.Render
