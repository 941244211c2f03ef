import PageTemplates.Proofs.Cache.Coherence

/-! # Requests for templates

What is asked of a cache of templates, in order, is a log of requests, each with the
compilation that answered it, and of clearings. It tells which sources have a template
kept, and which requests were answered with one and the same compilation.
-/

namespace PageTemplates

/-- On whose behalf the template of a source is asked for. -/
inductive Requester
  | caller
  /-- A scheme asks for the template of its own text. -/
  | scheme
  /-- An include asks for the template of the view that it has loaded. -/
  | inclusion
  deriving DecidableEq

structure TemplateRequest where
  requester : Requester
  source : String
  compiled : CompiledTemplate

inductive TemplateEvent
  | requested (request : TemplateRequest)
  | cleared

/-- The source is asked for at some place of the log after which nothing is cleared. -/
def TemplateEvent.AsksFor (log : List TemplateEvent) (source : String) : Prop :=
  ∃ before request after, log = before ++ .requested request :: after ∧
    request.source = source ∧ .cleared ∉ after

namespace TemplateEvent

@[simp]
theorem asksFor_nil (source : String) : ¬ AsksFor [] source := by
  rintro ⟨before, request, after, spelled, -⟩
  simp at spelled

theorem asksFor_cons {event : TemplateEvent} {log : List TemplateEvent} {source : String} :
    AsksFor (event :: log) source ↔
      AsksFor log source ∨
        (∃ request, event = .requested request ∧ request.source = source) ∧ .cleared ∉ log := by
  constructor
  · rintro ⟨before, request, after, spelled, same, kept⟩
    cases before with
    | nil =>
        cases spelled
        exact .inr ⟨⟨request, rfl, same⟩, kept⟩
    | cons first before =>
        cases spelled
        exact .inl ⟨before, request, after, rfl, same, kept⟩
  · rintro (⟨before, request, after, rfl, same, kept⟩ | ⟨⟨request, rfl, same⟩, kept⟩)
    · exact ⟨event :: before, request, after, rfl, same, kept⟩
    · exact ⟨[], request, log, rfl, same, kept⟩

end TemplateEvent

namespace TemplateCache

/-! ## One request -/

section

variable (cache : TemplateCache) (source : String)

/-- After a request its answer is kept, and whatever was kept before. -/
@[simp]
theorem get?_get (asked : String) :
    Dictionary.get? (cache.get source).2.entries asked =
      if source = asked then some (cache.get source).1
      else Dictionary.get? cache.entries asked := by
  unfold TemplateCache.get
  cases kept : Dictionary.get? cache.entries source with
  | some compiled =>
      by_cases same : source = asked
      · simp [← same, kept]
      · simp [same]
  | none => simp

theorem get_of_get? {compiled : CompiledTemplate}
    (kept : Dictionary.get? cache.entries source = some compiled) :
    cache.get source = (compiled, cache) := by
  rw [TemplateCache.get, kept]

theorem next_le_get : cache.next ≤ (cache.get source).2.next := by
  unfold TemplateCache.get
  cases Dictionary.get? cache.entries source with
  | some compiled => exact Nat.le_refl _
  | none => exact Nat.le_succ _

end

/-- The keys are distinct, and so are the serial numbers, which lie from `bound` on and have
been given out. -/
structure Numbered (bound : Nat) (cache : TemplateCache) : Prop where
  keys : (Dictionary.keys cache.entries).Nodup
  next : bound ≤ cache.next
  given : ∀ source compiled, Dictionary.get? cache.entries source = some compiled →
    bound ≤ compiled.serial ∧ compiled.serial < cache.next
  apart : ∀ one other first second, Dictionary.get? cache.entries one = some first →
    Dictionary.get? cache.entries other = some second → first.serial = second.serial →
    one = other

theorem numbered_empty : Numbered 0 empty :=
  ⟨List.nodup_nil, Nat.le_refl 0, nofun, nofun⟩

/-- What is kept after a clearing has numbers that were not given out before. -/
theorem numbered_clear (cache : TemplateCache) : Numbered cache.next cache.clear :=
  ⟨List.nodup_nil, Nat.le_refl _, nofun, nofun⟩

theorem Numbered.mono {cache : TemplateCache} {bound lower : Nat}
    (numbered : Numbered bound cache) (lower_le : lower ≤ bound) : Numbered lower cache where
  keys := numbered.keys
  next := Nat.le_trans lower_le numbered.next
  given source compiled kept :=
    have given := numbered.given source compiled kept
    ⟨Nat.le_trans lower_le given.1, given.2⟩
  apart := numbered.apart

theorem Numbered.get {cache : TemplateCache} {bound : Nat} (numbered : Numbered bound cache)
    (source : String) : Numbered bound (cache.get source).2 := by
  cases kept : Dictionary.get? cache.entries source with
  | some compiled =>
      rw [get_of_get? cache source kept]
      exact numbered
  | none =>
      rw [TemplateCache.get, kept]
      have older {asked : String} {found : CompiledTemplate}
          (stored : Dictionary.get? cache.entries asked = some found) :
          found.serial ≠ cache.next :=
        Nat.ne_of_lt (numbered.given asked found stored).2
      refine ⟨Dictionary.nodup_keys_put numbered.keys _ _, Nat.le_succ_of_le numbered.next,
        Dictionary.forall_get?_put ?given ?new, ?apart⟩
      case given =>
        intro asked found stored
        have given := numbered.given asked found stored
        exact ⟨given.1, Nat.lt_succ_of_lt given.2⟩
      case new => exact ⟨numbered.next, Nat.lt_succ_self _⟩
      case apart =>
        intro one other first second found again same
        simp only [Dictionary.get?_put, beq_iff_eq] at found again
        split at found <;> split at again
        next isOne isOther => exact isOne.symm.trans isOther
        next =>
          cases found
          exact absurd same.symm (older again)
        next =>
          cases again
          exact absurd same (older found)
        next => exact numbered.apart one other first second found again same

/-! ## Logs -/

/-- The events lead from one cache to another: every request is answered by the cache of its
moment. -/
inductive Leads : TemplateCache → List TemplateEvent → TemplateCache → Prop
  | nil (cache : TemplateCache) : Leads cache [] cache
  | requested {cache last : TemplateCache} {log : List TemplateEvent} (requester : Requester)
      (source : String) : Leads (cache.get source).2 log last →
      Leads cache (.requested ⟨requester, source, (cache.get source).1⟩ :: log) last
  | cleared {cache last : TemplateCache} {log : List TemplateEvent} :
      Leads cache.clear log last → Leads cache (.cleared :: log) last

theorem leads_request (cache : TemplateCache) (requester : Requester) (source : String) :
    Leads cache [.requested ⟨requester, source, (cache.get source).1⟩] (cache.get source).2 :=
  .requested requester source (.nil _)

section

variable {cache last : TemplateCache} {log : List TemplateEvent}

theorem Leads.append {middle : TemplateCache} {others : List TemplateEvent}
    (first : Leads cache log middle) (second : Leads middle others last) :
    Leads cache (log ++ others) last := by
  induction first with
  | nil => exact second
  | requested requester source _ induction =>
      exact .requested requester source (induction second)
  | cleared _ induction => exact .cleared (induction second)

theorem Leads.exists_middle {others : List TemplateEvent}
    (leads : Leads cache (log ++ others) last) :
    ∃ middle, Leads cache log middle ∧ Leads middle others last := by
  induction log generalizing cache with
  | nil => exact ⟨cache, .nil cache, leads⟩
  | cons event log induction =>
      cases leads with
      | requested requester source later =>
          rcases induction later with ⟨middle, first, second⟩
          exact ⟨middle, .requested requester source first, second⟩
      | cleared later =>
          rcases induction later with ⟨middle, first, second⟩
          exact ⟨middle, .cleared first, second⟩

theorem Leads.numbered (leads : Leads cache log last) {bound : Nat}
    (numbered : Numbered bound cache) : Numbered bound last := by
  induction leads with
  | nil => exact numbered
  | requested _ source _ induction => exact induction (numbered.get source)
  | cleared _ induction => exact induction ((numbered_clear _).mono numbered.next)

theorem Leads.faithful (leads : Leads cache log last) (faithful : cache.Faithful) :
    last.Faithful := by
  induction leads with
  | nil => exact faithful
  | requested _ source _ induction => exact induction (faithful.get source).2
  | cleared _ induction => exact induction (.clear _)

/-- What is kept stays so as long as nothing is cleared. -/
theorem Leads.get? (leads : Leads cache log last) (uncleared : .cleared ∉ log)
    {source : String} {compiled : CompiledTemplate}
    (kept : Dictionary.get? cache.entries source = some compiled) :
    Dictionary.get? last.entries source = some compiled := by
  induction leads with
  | nil => exact kept
  | @requested cache _ _ _ asked _ induction =>
      refine induction (fun later => uncleared (List.mem_cons_of_mem _ later)) ?_
      by_cases same : asked = source
      · subst same
        rw [get_of_get? cache asked kept]
        exact kept
      · simpa [same] using kept
  | cleared => exact absurd List.mem_cons_self uncleared

/-- The sources that have a template kept are those asked for since the last clearing, and
without one also those that had one at the start. -/
theorem Leads.mem_keys (leads : Leads cache log last) {source : String} :
    source ∈ Dictionary.keys last.entries ↔
      TemplateEvent.AsksFor log source ∨
        source ∈ Dictionary.keys cache.entries ∧ .cleared ∉ log := by
  induction leads with
  | nil => simp
  | @requested cache _ log requester asked _ induction =>
      have keys : source ∈ Dictionary.keys (cache.get asked).2.entries ↔
          asked = source ∨ source ∈ Dictionary.keys cache.entries := by
        by_cases same : asked = source <;> simp [Dictionary.mem_keys, same]
      rw [induction, keys, TemplateEvent.asksFor_cons]
      simp only [TemplateEvent.requested.injEq, exists_eq_left', List.mem_cons, reduceCtorEq,
        false_or]
      tauto
  | cleared _ induction =>
      rw [induction, TemplateEvent.asksFor_cons]
      simp [TemplateCache.clear]

theorem Leads.next_le (leads : Leads cache log last) : cache.next ≤ last.next := by
  induction leads with
  | nil => exact Nat.le_refl _
  | requested _ source _ induction => exact Nat.le_trans (next_le_get _ source) induction
  | cleared _ induction => exact induction

/-- What is kept at the end of a log with a clearing has numbers that were not given out
before the log. -/
theorem Leads.numbered_of_cleared (leads : Leads cache log last) (cleared : .cleared ∈ log) :
    Numbered cache.next last := by
  rcases List.append_of_mem cleared with ⟨before, after, rfl⟩
  rcases leads.exists_middle with ⟨middle, first, second⟩
  cases second with
  | cleared later => exact later.numbered ((numbered_clear middle).mono first.next_le)

/-! ## Shared compilations -/

/-- Two requests get the same compilation exactly if they are for the same source and nothing
is cleared between them. -/
theorem Leads.serial_eq_iff {bound : Nat} (numbered : Numbered bound cache)
    {before between after : List TemplateEvent} {one other : TemplateRequest}
    (leads : Leads cache
      (before ++ .requested one :: (between ++ .requested other :: after)) last) :
    one.compiled.serial = other.compiled.serial ↔
      one.source = other.source ∧ .cleared ∉ between := by
  rcases leads.exists_middle with ⟨early, toEarly, fromEarly⟩
  cases fromEarly with
  | requested requester source fromOne =>
      rcases fromOne.exists_middle with ⟨late, toLate, fromLate⟩
      cases fromLate with
      | requested laterRequester laterSource =>
          have numberedOne := (toEarly.numbered numbered).get source
          have keptOne : Dictionary.get? (early.get source).2.entries source =
              some (early.get source).1 := by rw [get?_get, if_pos rfl]
          have toOther := toLate.append (leads_request late laterRequester laterSource)
          have keptOther : Dictionary.get? (late.get laterSource).2.entries laterSource =
              some (late.get laterSource).1 := by rw [get?_get, if_pos rfl]
          by_cases cleared : .cleared ∈ between
          · -- The later number is new since the clearing, and the earlier one is not.
            have new := (toOther.numbered_of_cleared
              (List.mem_append_left _ cleared)).given laterSource _ keptOther
            have old := numberedOne.given source _ keptOne
            exact iff_of_false (Nat.ne_of_lt (Nat.lt_of_lt_of_le old.2 new.1))
              fun same => same.2 cleared
          · -- Both are kept at the end, where distinct keys have distinct numbers.
            have uncleared : .cleared ∉ between ++
                [.requested ⟨laterRequester, laterSource, (late.get laterSource).1⟩] := by
              simpa using cleared
            have stillOne := toOther.get? uncleared keptOne
            constructor
            · intro same
              exact ⟨(toOther.numbered numberedOne).apart _ _ _ _ stillOne keptOther same,
                cleared⟩
            · rintro ⟨same, -⟩
              change source = laterSource at same
              rw [← same] at keptOther stillOne ⊢
              exact congrArg CompiledTemplate.serial
                (Option.some.inj (stillOne.symm.trans keptOther))

end

end TemplateCache

end PageTemplates
