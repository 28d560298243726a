import PipelineWatch.Plan.View
import PipelineWatch.Proofs.Time.Order

/-!
Events by their timestamps. Any two events can be compared, and the comparison is that of what
a clock of universal time shows, however the timestamps are written; those that name no
instant come last. Sorting keeps all events and brings them into this order, and where the
comparison does not tell events apart it leaves them in the order in which they were.
-/
namespace PipelineWatch.Plan

open Time (Instant Date Clock Reading)

/-! ### Comparison -/

/-- How two events stand to each other. -/
def compareEvents (a b : Event) : Ordering :=
  compareNewest a.instant? b.instant?

instance : Std.TransCmp compareNewest where
  eq_swap := by
    intro a b
    cases a with
    | none => cases b <;> rfl
    | some s =>
      cases b with
      | none => rfl
      | some t =>
        show t.compare s = (s.compare t).swap
        exact Std.OrientedCmp.eq_swap
  isLE_trans := by
    intro a b c hab hbc
    cases a with
    | none =>
      cases b with
      | none => exact hbc
      | some t => cases hab
    | some s =>
      cases c with
      | none => rfl
      | some u =>
        cases b with
        | none => cases hbc
        | some t =>
          show (u.compare s).isLE = true
          exact Std.TransCmp.isLE_trans hbc hab

/-- The event is newer than the other one, or only it has an instant. -/
def Ahead (a b : Event) : Prop :=
  ∃ s, a.instant? = some s ∧ ∀ t, b.instant? = some t → t.reading.Before s.reading

theorem proper_of_instant? {e : Event} {t : Instant} (h : e.instant? = some t) : t.Proper := by
  obtain ⟨_, _, _, shown⟩ := Instant.exists_shownAs_of_parse? h
  exact shown.proper_and_reading.1

theorem compareEvents_eq_lt_iff {a b : Event} : compareEvents a b = .lt ↔ Ahead a b := by
  unfold compareEvents Ahead
  cases ha : a.instant? with
  | none => cases b.instant? <;> simp [compareNewest]
  | some s =>
    cases hb : b.instant? with
    | none => simp [compareNewest]
    | some t =>
      have order := (proper_of_instant? hb).compare_eq_lt_iff (proper_of_instant? ha)
      simpa [compareNewest] using order

/-- What an event without an instant is not behind has none either. -/
theorem untimed_of_not_ahead {a b : Event} (notAhead : ¬ Ahead b a) (untimed : a.instant? = none) :
    b.instant? = none := by
  refine Option.eq_none_iff_forall_ne_some.mpr fun t ht => notAhead ⟨t, ht, ?_⟩
  intro s hs
  cases untimed.symm.trans hs

theorem compareEvents_eq_eq_iff {a b : Event} :
    compareEvents a b = .eq ↔ a.instant? = b.instant? := by
  unfold compareEvents
  cases a.instant? with
  | none => cases b.instant? <;> simp [compareNewest]
  | some s =>
    cases b.instant? with
    | none => simp [compareNewest]
    | some t =>
      rw [Option.some.injEq]
      exact Instant.compare_eq_eq_iff.trans eq_comm

theorem compareEvents_swap (a b : Event) : compareEvents b a = (compareEvents a b).swap := by
  unfold compareEvents
  exact Std.OrientedCmp.eq_swap

theorem isLE_compareEvents_iff {a b : Event} :
    (compareEvents a b).isLE = true ↔ ¬ Ahead b a := by
  rw [← compareEvents_eq_lt_iff, compareEvents_swap a b]
  cases compareEvents a b <;> decide

theorem isLE_total (a b : Event) :
    (compareEvents a b).isLE = true ∨ (compareEvents b a).isLE = true := by
  rw [compareEvents_swap a b]
  cases compareEvents a b <;> decide

theorem isLE_trans {a b c : Event} (hab : (compareEvents a b).isLE = true)
    (hbc : (compareEvents b c).isLE = true) : (compareEvents a c).isLE = true := by
  unfold compareEvents at *
  exact Std.TransCmp.isLE_trans hab hbc

/-- What is true of a comparison of events. -/
structure Ranks (cmp : Event → Event → Ordering) : Prop where
  refl : ∀ a, cmp a a = .eq
  /-- Two events stand to each other as the other way round. -/
  swap : ∀ a b, cmp b a = (cmp a b).swap
  total : ∀ a b, (cmp a b).isLE = true ∨ (cmp b a).isLE = true
  trans : ∀ a b c, (cmp a b).isLE = true → (cmp b c).isLE = true → (cmp a c).isLE = true
  /-- The newer event comes first, and one without an instant last. -/
  ahead : ∀ a b, cmp a b = .lt ↔ Ahead a b
  /-- Events of one instant are alike, and so are those without one. -/
  alike : ∀ a b, cmp a b = .eq ↔ a.instant? = b.instant?
  /-- The instant of an event is one that some clock shows, and whichever clock that is, it is
  compared by what a clock of universal time shows then. -/
  universal : ∀ (e : Event) t, e.instant? = some t →
    (∃ d c ahead, t.ShownAs d c ahead) ∧
      ∀ d c ahead, t.ShownAs d c ahead → t.reading = .universal d c ahead

theorem compareEvents_ranks : Ranks compareEvents where
  refl := fun _ => compareEvents_eq_eq_iff.mpr rfl
  swap := compareEvents_swap
  total := isLE_total
  trans := fun _ _ _ => isLE_trans
  ahead := fun _ _ => compareEvents_eq_lt_iff
  alike := fun _ _ => compareEvents_eq_eq_iff
  universal := fun _ _ h =>
    ⟨Instant.exists_shownAs_of_parse? h, fun _ _ _ shown => shown.proper_and_reading.2⟩

/-! ### Sorting -/

/-- These are the events, sorted. -/
structure NewestFirst (events sorted : List Event) : Prop where
  perm : sorted.Perm events
  /-- Behind an event without an instant there are no others. -/
  timed : sorted.Pairwise fun a b => a.instant? = none → b.instant? = none
  /-- No event is earlier than one behind it. -/
  newest : sorted.Pairwise fun a b =>
    ∀ s t, a.instant? = some s → b.instant? = some t → ¬ s.reading.Before t.reading
  /-- The events of one instant are in the order in which they were, and so are those without
  one. -/
  stable : ∀ at?, sorted.filter (·.instant? = at?) = events.filter (·.instant? = at?)

theorem perm_sortByTime (events : List Event) : (sortByTime events).Perm events :=
  List.mergeSort_perm events _

theorem pairwise_sortByTime (events : List Event) :
    (sortByTime events).Pairwise fun a b => ¬ Ahead b a := by
  have sorted := @List.pairwise_mergeSort _ (fun a b => (compareEvents a b).isLE)
    (fun _ _ _ => isLE_trans) (fun a b => Bool.or_eq_true_iff.mpr (isLE_total a b)) events
  exact sorted.imp isLE_compareEvents_iff.mp

/-- Sorting leaves events that are alike in their order. -/
theorem filter_sortByTime {p : Event → Bool}
    (alike : ∀ a b, p a = true → p b = true → a.instant? = b.instant?) (events : List Event) :
    (sortByTime events).filter p = events.filter p := by
  have ordered : (events.filter p).Pairwise fun a b => (compareEvents a b).isLE = true := by
    refine List.pairwise_of_forall_mem_list fun a ha b hb => ?_
    have same := alike a b (List.mem_filter.mp ha).2 (List.mem_filter.mp hb).2
    rw [compareEvents_eq_eq_iff.mpr same]
    rfl
  have kept : (events.filter p).Sublist (sortByTime events) :=
    @List.sublist_mergeSort _ (fun a b => (compareEvents a b).isLE) _ (fun _ _ _ => isLE_trans)
      (fun a b => Bool.or_eq_true_iff.mpr (isLE_total a b)) _ ordered List.filter_sublist
  have filtered : (events.filter p).Sublist ((sortByTime events).filter p) := by
    simpa using kept.filter p
  exact (filtered.eq_of_length ((perm_sortByTime events).filter p).length_eq.symm).symm

/-- **Sorting brings the events into their order** and leaves alone what the order does not tell
apart. -/
theorem sorted_newest_first (events : List Event) :
    NewestFirst events (sortByTime events) ∧ Ranks compareEvents := by
  refine ⟨?_, compareEvents_ranks⟩
  have order := pairwise_sortByTime events
  constructor
  case perm => exact perm_sortByTime events
  case timed => exact order.imp untimed_of_not_ahead
  case newest =>
    refine order.imp fun {a b} notAhead s t hs ht before => notAhead ⟨t, ht, ?_⟩
    intro s' hs'
    obtain rfl := Option.some.inj (hs.symm.trans hs')
    exact before
  case stable =>
    intro at?
    refine filter_sortByTime (fun a b ha hb => ?_) events
    rw [of_decide_eq_true ha, of_decide_eq_true hb]

end PipelineWatch.Plan
