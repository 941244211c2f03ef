/-! # Steps that may fail -/

namespace PageTemplates

@[simp]
theorem map_ok {α β ε : Type} (transform : α → β) (value : α) :
    (.ok value : Except ε α).map transform = .ok (transform value) := rfl

@[simp]
theorem map_error {α β ε : Type} (transform : α → β) (problem : ε) :
    (.error problem : Except ε α).map transform = .error problem := rfl

@[simp]
theorem bind_ok {α β ε : Type} (value : α) (next : α → Except ε β) :
    ((.ok value : Except ε α) >>= next) = next value := rfl

@[simp]
theorem bind_error {α β ε : Type} (problem : ε) (next : α → Except ε β) :
    ((.error problem : Except ε α) >>= next) = .error problem := rfl

/-- Where a step and what follows it succeed, the step does, and what follows succeeds with
what the step gives. -/
theorem exists_of_bind_eq_ok {α β ε : Type} {found : Except ε α}
    {next : α → Except ε β} {result : β} (equal : found >>= next = .ok result) :
    ∃ value, found = .ok value ∧ next value = .ok result := by
  cases found with
  | error _ => cases equal
  | ok value => exact ⟨value, rfl, equal⟩

/-- Where a step succeeds on each item, it does on the list of them. -/
theorem mapM_eq_ok {α β ε : Type} {step : α → Except ε β} {result : α → β} {items : List α}
    (each : ∀ item ∈ items, step item = .ok (result item)) :
    items.mapM step = .ok (items.map result) := by
  induction items with
  | nil => rfl
  | cons item rest induction =>
      have parts := List.forall_mem_cons.mp each
      rw [List.mapM_cons, parts.1, induction parts.2]
      rfl

/-- Where a step succeeds on a list, it does on each of its items. -/
theorem exists_of_mapM_eq_ok {α β ε : Type} {step : α → Except ε β} {items : List α}
    {results : List β} (equal : items.mapM step = .ok results) :
    ∀ item ∈ items, ∃ result, step item = .ok result := by
  induction items generalizing results with
  | nil => nofun
  | cons item rest induction =>
      rw [List.mapM_cons] at equal
      rcases exists_of_bind_eq_ok equal with ⟨result, found, equal⟩
      rcases exists_of_bind_eq_ok equal with ⟨others, mapped, -⟩
      exact List.forall_mem_cons.mpr ⟨⟨result, found⟩, induction mapped⟩

end PageTemplates
