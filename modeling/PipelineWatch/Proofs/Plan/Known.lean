import Mathlib.Data.List.Induction
import Mathlib.Data.List.Nodup
import PipelineWatch.Plan.View

/-!
The plans that a list of events speaks of. An event belongs to one plan at most, whatever its
payload holds. The plans that are known are those that some event belongs to, each once, in
the order in which they first appear. Every event is among those of one known plan, or else
it belongs to none.
-/
namespace PipelineWatch

namespace Event

/-- The payload has this plan at `name`. The empty text is no plan. -/
structure Names (e : Event) (name id : String) : Prop where
  text : Json.lookup name e.payload = some (.text id)
  ne_empty : id ≠ ""

/-- The event names the plan, or it names none and its plan was put in place of this one. -/
inductive BelongsTo (e : Event) : String → Prop where
  | named {id : String} (h : e.Names "plan_id" id) : BelongsTo e id
  | replaced {id : String} (unnamed : ∀ other, ¬ e.Names "plan_id" other)
      (h : e.Names "original_plan_id" id) : BelongsTo e id

/-- The event belongs to no plan. -/
def Unplanned (e : Event) : Prop :=
  ∀ id, ¬ e.BelongsTo id

theorem payloadText?_eq_some_iff {e : Event} {name id : String} :
    e.payloadText? name = some id ↔ e.Names name id := by
  unfold payloadText?
  constructor
  · intro h
    split at h
    · rename_i s text
      by_cases empty : s = ""
      · simp [empty] at h
      · obtain rfl : s = id := by simpa [empty] using h
        exact ⟨text, empty⟩
    · cases h
  · intro h
    simp [h.text, h.ne_empty]

theorem payloadText?_eq_none_iff {e : Event} {name : String} :
    e.payloadText? name = none ↔ ∀ id, ¬ e.Names name id := by
  simp only [← payloadText?_eq_some_iff, Option.eq_none_iff_forall_ne_some, ne_eq]

theorem plan?_eq_some_iff {e : Event} {id : String} : e.plan? = some id ↔ e.BelongsTo id := by
  rw [plan?, Option.or_eq_some_iff, payloadText?_eq_some_iff, payloadText?_eq_none_iff,
    payloadText?_eq_some_iff]
  constructor
  · rintro (named | ⟨unnamed, replaced⟩)
    · exact .named named
    · exact .replaced unnamed replaced
  · intro h
    cases h with
    | named h => exact .inl h
    | replaced unnamed h => exact .inr ⟨unnamed, h⟩

theorem plan?_eq_none_iff {e : Event} : e.plan? = none ↔ e.Unplanned := by
  simp only [Unplanned, ← plan?_eq_some_iff, Option.eq_none_iff_forall_ne_some, ne_eq]

instance (e : Event) (id : String) : Decidable (e.BelongsTo id) :=
  decidable_of_iff (e.plan? = some id) plan?_eq_some_iff

instance (e : Event) : Decidable e.Unplanned :=
  decidable_of_iff (e.plan? = none) plan?_eq_none_iff

/-- An event does not belong to two plans. -/
theorem BelongsTo.unique {e : Event} {id id' : String} (h : e.BelongsTo id)
    (h' : e.BelongsTo id') : id = id' :=
  Option.some.inj ((plan?_eq_some_iff.mpr h).symm.trans (plan?_eq_some_iff.mpr h'))

end Event

namespace Plan

theorem selects_plan_iff {id : String} {e : Event} :
    (Selection.plan id).selects e = true ↔ e.BelongsTo id := by
  rw [← Event.plan?_eq_some_iff]
  exact beq_iff_eq

/-! ### The known plans -/

theorem knownFrom_append (seen : List String) (xs ys : List Event) :
    knownFrom seen (xs ++ ys) = knownFrom (knownFrom seen xs).reverse ys := by
  induction xs generalizing seen with
  | nil => simp [knownFrom]
  | cons e xs ih =>
    simp only [List.cons_append, knownFrom]
    split
    · split
      · exact ih _
      · exact ih _
    · exact ih _

/-- The known plans after one more event: it is one of theirs or of none, or it is the first
event of its plan. -/
theorem known_concat (events : List Event) (e : Event) :
    known (events ++ [e]) = known events ∧ (∀ id, e.BelongsTo id → id ∈ known events) ∨
      ∃ id, e.BelongsTo id ∧ id ∉ known events ∧
        known (events ++ [e]) = known events ++ [id] := by
  have step : known (events ++ [e]) = knownFrom (known events).reverse [e] :=
    knownFrom_append ..
  simp only [knownFrom, List.contains_reverse, List.contains_iff_mem] at step
  cases plan : e.plan? with
  | none =>
    rw [plan] at step
    refine .inl ⟨step.trans (List.reverse_reverse _), fun id belongs => ?_⟩
    exact absurd belongs (Event.plan?_eq_none_iff.mp plan id)
  | some id =>
    rw [plan] at step
    have belongs := Event.plan?_eq_some_iff.mp plan
    by_cases there : id ∈ known events
    · refine .inl ⟨by simpa [there] using step, fun other h => ?_⟩
      rwa [h.unique belongs]
    · exact .inr ⟨id, belongs, there, by simpa [there] using step⟩

/-- The plans that are known are those that an event belongs to. -/
theorem mem_known_iff {events : List Event} {id : String} :
    id ∈ known events ↔ ∃ e ∈ events, e.BelongsTo id := by
  induction events using List.reverseRecOn with
  | nil => simp [known, knownFrom]
  | append_singleton events e ih =>
    simp only [List.mem_append, List.mem_singleton, or_and_right, exists_or, exists_eq_left]
    rcases known_concat events e with ⟨same, old⟩ | ⟨new, belongs, absent, more⟩
    · rw [same, ih]
      exact ⟨.inl, fun h => h.elim (·) fun belongs => ih.mp (old id belongs)⟩
    · rw [more, List.mem_append, List.mem_singleton, ih]
      constructor
      · rintro (h | rfl)
        · exact .inl h
        · exact .inr belongs
      · exact Or.imp_right fun h => h.unique belongs

theorem nodup_known (events : List Event) : (known events).Nodup := by
  induction events using List.reverseRecOn with
  | nil => exact List.nodup_nil
  | append_singleton events e ih =>
    rcases known_concat events e with ⟨same, -⟩ | ⟨id, -, absent, more⟩
    · rwa [same]
    · rw [more, List.nodup_append_comm]
      exact List.nodup_cons.mpr ⟨absent, ih⟩

/-- There is an event of the plan `id` with no event of `id'` before it. -/
def AppearsBefore (events : List Event) (id id' : String) : Prop :=
  ∃ before e after, events = before ++ e :: after ∧ e.BelongsTo id ∧
    ∀ earlier ∈ before, ¬ earlier.BelongsTo id'

theorem AppearsBefore.append {events : List Event} {id id' : String}
    (h : AppearsBefore events id id') (more : List Event) :
    AppearsBefore (events ++ more) id id' := by
  obtain ⟨before, e, after, rfl, belongs, none⟩ := h
  exact ⟨before, e, after ++ more, by simp, belongs, none⟩

theorem appearsBefore_of_not_mem {events : List Event} {id id' : String}
    (h : id ∈ known events) (absent : id' ∉ known events) : AppearsBefore events id id' := by
  obtain ⟨e, he, belongs⟩ := mem_known_iff.mp h
  obtain ⟨before, after, split⟩ := List.append_of_mem he
  refine ⟨before, e, after, split, belongs, fun earlier there other => absent ?_⟩
  exact mem_known_iff.mpr ⟨earlier, by simp [split, there], other⟩

/-- The plans are in the order in which they first appear. -/
theorem pairwise_known (events : List Event) :
    (known events).Pairwise (AppearsBefore events) := by
  induction events using List.reverseRecOn with
  | nil => exact List.Pairwise.nil
  | append_singleton events e ih =>
    have still := ih.imp fun h => h.append [e]
    rcases known_concat events e with ⟨same, -⟩ | ⟨id, -, absent, more⟩
    · rwa [same]
    · rw [more, List.pairwise_append]
      refine ⟨still, List.pairwise_singleton _ _, fun old there new h => ?_⟩
      obtain rfl := List.mem_singleton.mp h
      exact (appearsBefore_of_not_mem there absent).append [e]

/-! ### The events of each plan -/

/-- The events of the plan. -/
def eventsOf (events : List Event) (id : String) : List Event :=
  events.filter (Selection.plan id).selects

theorem mem_eventsOf_iff {events : List Event} {id : String} {e : Event} :
    e ∈ eventsOf events id ↔ e ∈ events ∧ e.BelongsTo id := by
  rw [eventsOf, List.mem_filter, selects_plan_iff]

/-- The events that belong to no plan. -/
def unplanned (events : List Event) : List Event :=
  events.filter fun e => e.Unplanned

/-- The events that do not belong to the plan. -/
def eventsWithout (events : List Event) (id : String) : List Event :=
  events.filter fun e => !(Selection.plan id).selects e

theorem mem_eventsWithout_iff {events : List Event} {id : String} {e : Event} :
    e ∈ eventsWithout events id ↔ e ∈ events ∧ ¬ e.BelongsTo id := by
  rw [eventsWithout, List.mem_filter, Bool.not_eq_true', ← Bool.not_eq_true, selects_plan_iff]

theorem filter_eventsWithout {p : Event → Bool} {id : String}
    (h : ∀ e, p e = true → ¬ e.BelongsTo id) (events : List Event) :
    (eventsWithout events id).filter p = events.filter p := by
  rw [eventsWithout, List.filter_filter]
  refine List.filter_congr fun e _ => ?_
  cases hp : p e with
  | false => rfl
  | true =>
    have other : (Selection.plan id).selects e = false := by
      rw [← Bool.not_eq_true, selects_plan_iff]
      exact h e hp
    rw [other]
    rfl

/-- Events that belong to these plans, or to none, fall apart into those of each plan and
those of none. -/
theorem perm_eventsOf {ids : List String} (nodup : ids.Nodup) {events : List Event}
    (all : ∀ e ∈ events, ∀ id, e.BelongsTo id → id ∈ ids) :
    (ids.flatMap (eventsOf events) ++ unplanned events).Perm events := by
  induction ids generalizing events with
  | nil =>
    have none : unplanned events = events := by
      refine List.filter_eq_self.mpr fun e he => decide_eq_true ?_
      exact fun id belongs => List.not_mem_nil (all e he id belongs)
    rw [none]
    exact .refl _
  | cons id ids ih =>
    obtain ⟨apart, nodup⟩ := List.nodup_cons.mp nodup
    -- without those of the first plan, the events fall apart in the same way
    have others : ∀ other ∈ ids,
        eventsOf events other = eventsOf (eventsWithout events id) other := by
      intro other there
      refine (filter_eventsWithout (fun e selected belongs => apart ?_) events).symm
      rwa [belongs.unique (selects_plan_iff.mp selected)]
    have none : unplanned events = unplanned (eventsWithout events id) :=
      (filter_eventsWithout (fun e h => (of_decide_eq_true h : e.Unplanned) id) events).symm
    have left : ∀ e ∈ eventsWithout events id, ∀ other, e.BelongsTo other → other ∈ ids := by
      intro e he other belongs
      obtain ⟨he, foreign⟩ := mem_eventsWithout_iff.mp he
      refine (List.mem_cons.mp (all e he other belongs)).resolve_left ?_
      rintro rfl
      exact foreign belongs
    rw [List.flatMap_cons, List.flatMap_congr others, none, List.append_assoc]
    exact ((ih nodup left).append_left _).trans (List.filter_append_perm _ events)

/-- The events fall apart into those of each known plan and those of none. -/
theorem perm_eventsOf_known (events : List Event) :
    ((known events).flatMap (eventsOf events) ++ unplanned events).Perm events :=
  perm_eventsOf (nodup_known events) fun e he _ belongs => mem_known_iff.mpr ⟨e, he, belongs⟩

end Plan

end PipelineWatch
