import Mathlib.Data.List.Basic
import PageTemplates.Proofs.Dictionary
import PageTemplates.View.Cache

/-! # Kept views as a log

What a cache of views has kept can be told from the log of what was done to it: for every
file the last content that was stored, unless it was forgotten since. Files are told apart
by the components of their paths, and directories go by components as well.
-/

namespace PageTemplates.ViewCache

inductive Operation
  | store (path : Path) (content : String) (modified : Time) (now : Nat)
  | ask (path : Path) (modified : Time) (now : Nat)
  | invalidate (path : Path)
  | invalidateUnder (directory : Path)
  | clear

def after (cache : ViewCache) : Operation → ViewCache
  | .store path content modified now => cache.store path content modified now
  | .ask _ _ _ => cache
  | .invalidate path => (cache.invalidate path).2
  | .invalidateUnder directory => cache.invalidateUnder directory
  | .clear => cache.clear

def afterAll (cache : ViewCache) (log : List Operation) : ViewCache :=
  log.foldl after cache

/-! ## What a log tells -/

namespace Operation

def Stores (file : List Component) (kept : KeptView) : Operation → Prop
  | .store path content modified now =>
      path.components = file ∧ kept = ⟨content, modified, now⟩
  | _ => False

/-- The operations after which nothing counts that was stored for a file before. -/
def Ends (file : List Component) : Operation → Prop
  | .store path _ _ _ | .invalidate path => path.components = file
  | .ask _ _ _ => False
  | .invalidateUnder directory => directory.components <+: file
  | .clear => True

end Operation

/-- The last content stored for a file, with nothing after it that ends it. -/
def Live (log : List Operation) (file : List Component) (kept : KeptView) : Prop :=
  ∃ earlier store later, log = earlier ++ store :: later ∧ store.Stores file kept ∧
    ∀ operation ∈ later, ¬ operation.Ends file

theorem live_nil (file : List Component) (kept : KeptView) : ¬ Live [] file kept := by
  rintro ⟨earlier, store, later, spelled, -⟩
  simp at spelled

theorem Live.mem {log : List Operation} {file : List Component} {kept : KeptView}
    (live : Live log file kept) :
    ∃ path, .store path kept.content kept.modified kept.storedAt ∈ log := by
  rcases live with ⟨earlier, store, later, rfl, stores, -⟩
  cases store with
  | store path content modified now =>
      cases stores.2
      exact ⟨path, List.mem_append_right _ List.mem_cons_self⟩
  | ask | invalidate | invalidateUnder | clear => cases stores

/-- What is live after one more operation is what it stores, and what was live before
unless it ends that. -/
theorem live_concat {log : List Operation} {operation : Operation} {file : List Component}
    {kept : KeptView} :
    Live (log ++ [operation]) file kept ↔
      operation.Stores file kept ∨ Live log file kept ∧ ¬ operation.Ends file := by
  constructor
  · rintro ⟨earlier, store, later, spelled, stores, spared⟩
    rcases List.eq_nil_or_concat later with rfl | ⟨others, last, rfl⟩
    · have parts := List.append_inj' spelled rfl
      cases parts.2
      exact .inl stores
    · rw [List.concat_eq_append] at spelled spared
      rw [← List.cons_append, ← List.append_assoc] at spelled
      have parts := List.append_inj' spelled rfl
      cases parts.2
      refine .inr ⟨⟨earlier, store, others, parts.1, stores, fun other member => ?_⟩, ?_⟩
      · exact spared other (List.mem_append_left _ member)
      · exact spared operation (List.mem_append_right _ List.mem_cons_self)
  · rintro (stores | ⟨⟨earlier, store, later, rfl, stores, spared⟩, spares⟩)
    · exact ⟨log, operation, [], rfl, stores, nofun⟩
    · refine ⟨earlier, store, later ++ [operation], by simp, stores, fun other member => ?_⟩
      rcases List.mem_append.mp member with member | member
      · exact spared other member
      · rwa [List.mem_singleton.mp member]

/-! ## What a cache keeps -/

/-- A cache keeps what is live by a log, under distinct keys. -/
structure Logged (log : List Operation) (cache : ViewCache) : Prop where
  kept : ∀ file kept,
    Dictionary.get? cache.entries file = some kept ↔ Live log file kept
  distinct : (Dictionary.keys cache.entries).Nodup

theorem logged_empty (lifetime : Nat) : Logged [] (empty lifetime) where
  kept file kept := by
    simpa [empty] using live_nil file kept
  distinct := List.nodup_nil

section

variable {log : List Operation} {cache : ViewCache}

/-- An operation that stores nothing drops the files that it ends. -/
theorem Logged.filter (logged : Logged log cache) (operation : Operation)
    (accepts : List Component → Bool)
    (stores : ∀ file kept, ¬ operation.Stores file kept)
    (ends : ∀ file, operation.Ends file ↔ accepts file = false) :
    Logged (log ++ [operation]) { cache with
      entries := cache.entries.filter fun entry => accepts entry.1 } where
  kept file kept := by
    rw [Dictionary.get?_filter, live_concat, ends]
    cases accepted : accepts file <;> simp [stores, logged.kept]
  distinct := Dictionary.nodup_keys_filter logged.distinct _

theorem Logged.after (logged : Logged log cache) (operation : Operation) :
    Logged (log ++ [operation]) (cache.after operation) := by
  cases operation with
  | store path content modified now =>
      refine ⟨fun file kept => ?_, Dictionary.nodup_keys_put logged.distinct _ _⟩
      rw [ViewCache.after, store, live_concat, ← logged.kept]
      by_cases same : path.components = file
      · simp [same, Operation.Stores, Operation.Ends, eq_comm]
      · simp [same, Operation.Stores, Operation.Ends]
  | ask path modified now =>
      refine ⟨fun file kept => ?_, logged.distinct⟩
      rw [ViewCache.after, live_concat, ← logged.kept]
      simp [Operation.Stores, Operation.Ends]
  | invalidate path =>
      apply logged.filter (.invalidate path) (fun file => !(file == path.components))
      · exact fun _ _ => id
      · intro file
        rw [Operation.Ends, Bool.not_eq_false', beq_iff_eq]
        exact eq_comm
  | invalidateUnder directory =>
      apply logged.filter (.invalidateUnder directory)
        (fun file => !directory.covers file)
      · exact fun _ _ => id
      · intro file
        rw [Operation.Ends, Bool.not_eq_false', Path.covers_iff]
  | clear =>
      have dropped := logged.filter .clear (fun _ => false) (fun _ _ => id)
        (fun _ => iff_of_true trivial rfl)
      rwa [List.filter_false] at dropped

theorem Logged.afterAll (logged : Logged log cache) (operations : List Operation) :
    Logged (log ++ operations) (cache.afterAll operations) := by
  induction operations generalizing log cache with
  | nil => rwa [List.append_nil]
  | cons operation rest induction =>
      rw [List.append_cons]
      exact induction (logged.after operation)

/-- What is fresh is live, has the modification time asked for and was stored less than
the lifetime ago. -/
theorem Logged.fresh?_eq_some (logged : Logged log cache) {path : Path} {modified : Time}
    {now : Nat} {content : String} :
    cache.fresh? path modified now = some content ↔
      ∃ storedAt, Live log path.components ⟨content, modified, storedAt⟩ ∧
        now - storedAt < cache.lifetime := by
  simp only [← logged.kept]
  constructor
  · intro fresh
    unfold fresh? at fresh
    split at fresh
    next kept found =>
      simp only [Option.ite_none_right_eq_some, Bool.and_eq_true, decide_eq_true_eq,
        Option.some.injEq] at fresh
      rcases kept with ⟨keptContent, keptTime, storedAt⟩
      rcases fresh with ⟨⟨rfl, young⟩, rfl⟩
      exact ⟨storedAt, found, young⟩
    next => cases fresh
  · rintro ⟨storedAt, found, young⟩
    simp [fresh?, found, young]

theorem Logged.invalidate_fst (logged : Logged log cache) {path : Path} :
    (cache.invalidate path).1 = true ↔ ∃ kept, Live log path.components kept := by
  simp only [← logged.kept]
  exact Dictionary.has_eq_true

theorem Logged.mem_keys (logged : Logged log cache) {file : List Component} :
    file ∈ Dictionary.keys cache.entries ↔ ∃ kept, Live log file kept := by
  simp only [← logged.kept]
  exact Dictionary.mem_keys

end

@[simp]
theorem afterAll_lifetime (cache : ViewCache) (log : List Operation) :
    (cache.afterAll log).lifetime = cache.lifetime := by
  induction log generalizing cache with
  | nil => rfl
  | cons operation rest induction =>
      refine (induction (cache.after operation)).trans ?_
      cases operation <;> rfl

/-! ## What a cache answers -/

/-- Whatever was done to a cache so far: unless the lifetime has passed since something was
stored, content is fresh for a path and a time exactly if it is live for the file of the
path and was stored with that time. Whatever the lifetime, there is something to invalidate
exactly if something is live, and as many contents are kept as there are files with live
content. With no lifetime nothing is ever fresh. -/
theorem answers_of_log (lifetime : Nat) (log : List Operation) :
    let cache := (empty lifetime).afterAll log
    (∀ path modified now,
      (∀ stored content time storedAt, .store stored content time storedAt ∈ log →
        now - storedAt < lifetime) →
      ∀ content, cache.fresh? path modified now = some content ↔
        ∃ storedAt, Live log path.components ⟨content, modified, storedAt⟩) ∧
    (∀ path, (cache.invalidate path).1 = true ↔ ∃ kept, Live log path.components kept) ∧
    (∃ files : List (List Component), files.Nodup ∧
      (∀ file, file ∈ files ↔ ∃ kept, Live log file kept) ∧ cache.size = files.length) ∧
    (lifetime = 0 → ∀ path modified now, cache.fresh? path modified now = none) := by
  intro cache
  have logged : Logged log cache := (logged_empty lifetime).afterAll log
  have sameLifetime : cache.lifetime = lifetime := afterAll_lifetime (empty lifetime) log
  refine ⟨?_, fun path => logged.invalidate_fst, ?_, ?_⟩
  · intro path modified now unelapsed content
    rw [logged.fresh?_eq_some, sameLifetime]
    constructor
    · rintro ⟨storedAt, live, -⟩
      exact ⟨storedAt, live⟩
    · rintro ⟨storedAt, live⟩
      rcases live.mem with ⟨stored, member⟩
      exact ⟨storedAt, live, unelapsed stored content modified storedAt member⟩
  · exact ⟨Dictionary.keys cache.entries, logged.distinct, fun _ => logged.mem_keys,
      (List.length_map ..).symm⟩
  · rintro rfl path modified now
    rw [Option.eq_none_iff_forall_ne_some]
    intro content fresh
    rcases logged.fresh?_eq_some.mp fresh with ⟨storedAt, -, young⟩
    omega

/-- One file under three spellings beside a file whose directory only begins alike. -/
def spellings : List Operation :=
  [.store ⟨"/a/x"⟩ "one" 1 0, .store ⟨"/ab/x"⟩ "two" 1 0, .store ⟨"//a/./x/"⟩ "three" 2 1,
    .ask ⟨"/a/x"⟩ 2 1, .invalidateUnder ⟨"/ab/"⟩, .store ⟨"./a/x"⟩ "four" 2 2,
    .invalidateUnder ⟨"/a/x/y"⟩]

theorem answers_of_log_spellings :
    (∀ stored content time storedAt, .store stored content time storedAt ∈ spellings →
      5 - storedAt < 1000) ∧
    (∃ storedAt, Live spellings (Path.components ⟨"/a//x"⟩) ⟨"three", 2, storedAt⟩) ∧
    (¬ ∃ kept, Live spellings (Path.components ⟨"/ab/x"⟩) kept) ∧
    (((empty 1000).afterAll spellings).fresh? ⟨"/a//x"⟩ 2 5 = some "three") := by
  have young : ∀ stored content time storedAt,
      .store stored content time storedAt ∈ spellings → 5 - storedAt < 1000 := by
    intros
    omega
  have answers := answers_of_log 1000 spellings
  have fresh : ((empty 1000).afterAll spellings).fresh? ⟨"/a//x"⟩ 2 5 = some "three" := by
    decide +kernel
  have forgotten : (((empty 1000).afterAll spellings).invalidate ⟨"/ab/x"⟩).1 = false := by
    decide +kernel
  refine ⟨young, (answers.1 _ _ _ young _).mp fresh, fun live => ?_, fresh⟩
  rw [(answers.2.1 ⟨"/ab/x"⟩).mpr live] at forgotten
  cases forgotten

end PageTemplates.ViewCache
