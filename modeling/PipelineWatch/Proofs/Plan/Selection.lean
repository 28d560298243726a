import PipelineWatch.Plan.Selection

/-!
Reconciling a selection with the plans that are known. What is selected is kept as far as it
is known, and what comes in its place otherwise depends on the known plans alone.
-/
namespace PipelineWatch.Plan.Selection

/-- The plan that is selected, if it is only one, is among these. -/
def IsKnown (s : Selection) (known : List String) : Prop :=
  ∀ id, s = .plan id → id ∈ known

/-- What is selected in place of a plan that is not among these. -/
def fallback : List String → Selection
  | first :: _ => .plan first
  | [] => .all

variable {s : Selection} {known : List String}

theorem reconcile_of_isKnown (h : s.IsKnown known) : s.reconcile known = s := by
  cases s with
  | all => rfl
  | plan id => simp [reconcile, h id rfl]

theorem reconcile_of_not_isKnown (h : ¬ s.IsKnown known) : s.reconcile known = fallback known := by
  cases s with
  | all => exact absurd nofun h
  | plan id =>
    have unknown : id ∉ known := by
      intro hid
      refine h fun other same => ?_
      cases same
      exact hid
    simp only [reconcile, List.contains_iff_mem, if_neg unknown]
    cases known <;> rfl

theorem not_isKnown_iff : ¬ s.IsKnown known ↔ ∃ id, s = .plan id ∧ id ∉ known := by
  simp [IsKnown]

theorem isKnown_fallback (known : List String) : (fallback known).IsKnown known := by
  cases known with
  | nil => nofun
  | cons first rest =>
    intro id same
    cases same
    exact List.mem_cons_self

theorem isKnown_reconcile (s : Selection) (known : List String) :
    (s.reconcile known).IsKnown known := by
  by_cases h : s.IsKnown known
  · rwa [reconcile_of_isKnown h]
  · rw [reconcile_of_not_isKnown h]
    exact isKnown_fallback known

/-- What is selected stays as it is just as far as it is known. -/
theorem reconcile_eq_self_iff : s.reconcile known = s ↔ s.IsKnown known := by
  constructor
  · intro same
    rw [← same]
    exact s.isKnown_reconcile known
  · exact reconcile_of_isKnown

end PipelineWatch.Plan.Selection
