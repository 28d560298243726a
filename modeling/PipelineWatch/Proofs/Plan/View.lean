import Mathlib.Algebra.GroupWithZero.Nat
import PipelineWatch.Proofs.Plan.Known
import PipelineWatch.Proofs.Plan.Selection

/-!
What a view shows, whatever the events and whatever is selected. Its plans are those that the
events belong to, its selection is everything or one of these plans, and its events are those
of the selection. A view of what is selected in a view is the same view again, and the views
of the single plans share the events of plans out among themselves.
-/
namespace PipelineWatch.Plan

namespace Selection

/-- The event is one of those that are selected. -/
def Covers : Selection → Event → Prop
  | .all, _ => True
  | .plan id, e => e.BelongsTo id

theorem selects_iff {s : Selection} {e : Event} : s.selects e = true ↔ s.Covers e := by
  cases s with
  | all => exact iff_of_true rfl trivial
  | plan id => exact selects_plan_iff

/-- Of these events, the ones that are shown are those that are selected: in their order, and
each as often as it is there. -/
structure Picks (s : Selection) (events shown : List Event) : Prop where
  order : shown.Sublist events
  only : ∀ e ∈ shown, s.Covers e
  all : ∀ e, s.Covers e → shown.count e = events.count e

theorem picks_filter (s : Selection) (events : List Event) :
    s.Picks events (events.filter s.selects) where
  order := List.filter_sublist
  only := fun _ he => selects_iff.mp (List.mem_filter.mp he).2
  all := fun _ covered => List.count_filter (selects_iff.mpr covered)

/-- What is left of a selection is everything, or a plan of some event. -/
theorem reconcile_known (s : Selection) (events : List Event) :
    s.reconcile (known events) = .all ∨
      ∃ id ∈ known events, s.reconcile (known events) = .plan id ∧
        events.filter (s.reconcile (known events)).selects ≠ [] := by
  have found := s.isKnown_reconcile (known events)
  generalize s.reconcile (known events) = left at found ⊢
  cases left with
  | all => exact .inl rfl
  | plan id =>
    have there := found id rfl
    obtain ⟨e, he, belongs⟩ := mem_known_iff.mp there
    refine .inr ⟨id, there, rfl, ?_⟩
    exact List.ne_nil_of_mem (mem_eventsOf_iff.mpr ⟨he, belongs⟩)

end Selection

/-- What is true of a view of these events where this selection was asked for. -/
structure View.Lawful (events : List Event) (requested : Selection) (v : View) : Prop where
  /-- The plans are those that an event belongs to, each once, the one that appears first in
  front. -/
  plans : ∀ id, id ∈ v.planIds ↔ ∃ e ∈ events, e.BelongsTo id
  nodup : v.planIds.Nodup
  order : v.planIds.Pairwise (AppearsBefore events)
  /-- Everything is selected, or one of the plans and with it some event. -/
  selection : v.selection = .all ∨
    ∃ id ∈ v.planIds, v.selection = .plan id ∧ v.events ≠ []
  /-- It is what was asked for if that is everything or a known plan. -/
  kept : requested.IsKnown v.planIds → v.selection = requested
  /-- The events are those of the selection. -/
  picks : v.selection.Picks events v.events
  /-- What the view has selected leads to the same view. -/
  again : View.derive events v.selection = v
  /-- An event of a plan is among the events of just one of the plans. -/
  apart : ∀ e ∈ events, ∀ id, e.BelongsTo id →
    ∀ other, other ∈ v.planIds ∧ e ∈ eventsOf events other ↔ other = id
  /-- The events of all plans and those of none are all events there are, -/
  parts : (v.planIds.flatMap (eventsOf events) ++ unplanned events).Perm events
  /-- and none is counted twice. -/
  lengths : (v.planIds.map fun id => (eventsOf events id).length).sum +
    (unplanned events).length = events.length

/-- **Every view is lawful.** -/
theorem derive_lawful (events : List Event) (requested : Selection) :
    View.Lawful events requested (View.derive events requested) where
  plans := fun _ => mem_known_iff
  nodup := nodup_known events
  order := pairwise_known events
  selection := requested.reconcile_known events
  kept := Selection.reconcile_of_isKnown
  picks := Selection.picks_filter _ events
  again := by
    have same := Selection.reconcile_of_isKnown (requested.isKnown_reconcile (known events))
    simp only [View.derive, same]
  apart := by
    intro e he id belongs other
    rw [mem_eventsOf_iff]
    constructor
    · rintro ⟨-, -, belongs'⟩
      exact belongs'.unique belongs
    · rintro rfl
      exact ⟨mem_known_iff.mpr ⟨e, he, belongs⟩, he, belongs⟩
  parts := perm_eventsOf_known events
  lengths := by
    rw [← List.length_flatMap, ← List.length_append]
    exact (perm_eventsOf_known events).length_eq

end PipelineWatch.Plan
