import PipelineWatch.Proofs.Plan.Known
import PipelineWatch.Proofs.Plan.Selection
import PipelineWatch.Proofs.Watch.Follow

/-!
How what a watcher follows moves as it looks at the events time and again. It keeps to a plan
as long as the events have one of that plan, goes over to the first of their plans when they
have none, and to all events when they have no plans either, which is where it stays. It
prints what it follows and which plans there are just when that has changed.
-/
namespace PipelineWatch.Watch

open Plan (Selection)

/-- One look at the events: the watcher before and after it, and what it prints. -/
structure Glance where
  before : Watch
  events : List Event
  after : Watch
  prints : List Print

/-- The looks of a watcher that is shown these events, one after the other. -/
def glances (w : Watch) : List (List Event) → List Glance
  | [] => []
  | events :: rest =>
    let (after, prints) := w.refresh events
    ⟨w, events, after, prints⟩ :: after.glances rest

/-! ### One look -/

/-- What is true of one look, whatever was followed before it. -/
structure Glance.Orderly (g : Glance) : Prop where
  plans : g.after.planIds = Plan.known g.events
  /-- Everything is followed, or one of the plans. -/
  selection : g.after.selection = .all ∨
    ∃ id ∈ g.after.planIds, g.after.selection = .plan id
  /-- Another selection is followed just if there is no event of the plan that was. -/
  moves : g.after.selection ≠ g.before.selection ↔
    ∃ id, g.before.selection = .plan id ∧ ∀ e ∈ g.events, ¬ e.BelongsTo id
  /-- It is the first of the plans then, -/
  first : g.after.selection ≠ g.before.selection →
    ∀ id, g.after.planIds.head? = some id → g.after.selection = .plan id
  /-- or everything, just if there are no plans. -/
  all : g.after.selection ≠ g.before.selection →
    (g.after.selection = .all ↔ g.after.planIds = [])
  /-- The plans are printed just if they are others than before, -/
  plansLine : planLines g.prints =
    if g.after.planIds = g.before.planIds then [] else [Line.plans g.after.planIds]
  /-- and so is what is followed. -/
  followingLine : followingLines g.prints =
    if g.after.selection = g.before.selection then [] else [Line.following g.after.selection]
  /-- Nothing else is printed. -/
  lines : g.prints.map (·.line) = planLines g.prints ++ followingLines g.prints
  /-- A second look at the same events changes nothing and prints nothing. -/
  again : g.after.refresh g.events = (g.after, [])

theorem not_isKnown_known_iff {s : Selection} {events : List Event} :
    ¬ s.IsKnown (Plan.known events) ↔ ∃ id, s = .plan id ∧ ∀ e ∈ events, ¬ e.BelongsTo id := by
  simp only [Selection.not_isKnown_iff, Plan.mem_known_iff, not_exists, not_and]

/-- What a look prints, by what has changed. -/
theorem refresh_prints (w : Watch) (events : List Event) :
    (w.refresh events).2 =
      (if (w.refresh events).1.planIds = w.planIds then []
        else [.plans (w.refresh events).1.planIds]) ++
      if (w.refresh events).1.selection = w.selection then []
        else [.following (w.refresh events).1.selection] :=
  rfl

theorem refresh_again (w : Watch) (events : List Event) :
    (w.refresh events).1.refresh events = ((w.refresh events).1, []) := by
  have same := Selection.reconcile_of_isKnown (w.selection.isKnown_reconcile (Plan.known events))
  simp [refresh, Plan.View.derive, same]

theorem refresh_orderly (w : Watch) (events : List Event) :
    Glance.Orderly ⟨w, events, (w.refresh events).1, (w.refresh events).2⟩ := by
  have moved : w.selection.reconcile (Plan.known events) ≠ w.selection ↔
      ¬ w.selection.IsKnown (Plan.known events) :=
    not_congr Selection.reconcile_eq_self_iff
  have target (h : w.selection.reconcile (Plan.known events) ≠ w.selection) :
      w.selection.reconcile (Plan.known events) = Selection.fallback (Plan.known events) :=
    Selection.reconcile_of_not_isKnown (moved.mp h)
  constructor
  case plans => rfl
  case selection =>
    have found := w.selection.isKnown_reconcile (Plan.known events)
    show w.selection.reconcile (Plan.known events) = .all ∨
      ∃ id ∈ Plan.known events, w.selection.reconcile (Plan.known events) = .plan id
    cases h : w.selection.reconcile (Plan.known events) with
    | all => exact .inl rfl
    | plan id => exact .inr ⟨id, found id h, rfl⟩
  case moves => exact moved.trans not_isKnown_known_iff
  case first =>
    intro h id head
    refine (target h).trans ?_
    cases known : Plan.known events with
    | nil => cases (congrArg List.head? known).symm.trans head
    | cons first rest =>
      obtain rfl : first = id := Option.some.inj ((congrArg List.head? known).symm.trans head)
      rfl
  case all =>
    intro h
    show w.selection.reconcile (Plan.known events) = .all ↔ Plan.known events = []
    rw [target h]
    cases Plan.known events <;> simp [Selection.fallback]
  case plansLine =>
    simp only [refresh_prints]
    split <;> split <;> rfl
  case followingLine =>
    simp only [refresh_prints]
    split <;> split <;> rfl
  case lines =>
    simp only [refresh_prints]
    split <;> split <;> rfl
  case again => exact w.refresh_again events

/-! ### One look after the other -/

theorem glances_events (w : Watch) (snapshots : List (List Event)) :
    (w.glances snapshots).map (·.events) = snapshots := by
  induction snapshots generalizing w with
  | nil => rfl
  | cons events rest ih => exact congrArg (events :: ·) (ih (w.refresh events).1)

theorem glances_orderly (w : Watch) (snapshots : List (List Event)) :
    ∀ g ∈ w.glances snapshots, g.Orderly := by
  induction snapshots generalizing w with
  | nil => exact fun g hg => absurd hg List.not_mem_nil
  | cons events rest ih =>
    intro g hg
    rcases List.mem_cons.mp hg with rfl | later
    · exact w.refresh_orderly events
    · exact ih _ g later

/-- What each look keeps is true of the watcher before and after every look. -/
theorem glances_invariant {P : Watch → Prop} {w : Watch} {snapshots : List (List Event)} (h : P w)
    (keep : ∀ events ∈ snapshots, ∀ w, P w → P (w.refresh events).1) :
    ∀ g ∈ w.glances snapshots, P g.before ∧ P g.after := by
  induction snapshots generalizing w with
  | nil => exact fun g hg => absurd hg List.not_mem_nil
  | cons events rest ih =>
    have next := keep events (by simp) w h
    intro g hg
    rcases List.mem_cons.mp hg with rfl | later
    · exact ⟨h, next⟩
    · exact ih next (fun events he => keep events (by simp [he])) g later

/-- A watcher that follows everything goes on to do so. -/
theorem glances_of_all {w : Watch} (h : w.selection = .all) (snapshots : List (List Event)) :
    ∀ g ∈ w.glances snapshots, g.after.selection = .all := by
  intro g hg
  refine (glances_invariant (P := fun w => w.selection = .all) h ?_ g hg).2
  intro events _ w all
  show w.selection.reconcile _ = .all
  rw [all]
  rfl

theorem pairwise_glances (w : Watch) (snapshots : List (List Event)) :
    (w.glances snapshots).Pairwise fun g later =>
      g.after.selection = .all → later.after.selection = .all := by
  induction snapshots generalizing w with
  | nil => exact .nil
  | cons events rest ih =>
    exact .cons (fun later hl h => glances_of_all h rest later hl) (ih (w.refresh events).1)

/-- A watcher keeps to a plan that it finds each time. -/
theorem glances_of_plan {w : Watch} {id : String} (h : w.selection = .plan id)
    {snapshots : List (List Event)} (found : ∀ events ∈ snapshots, ∃ e ∈ events, e.BelongsTo id) :
    ∀ g ∈ w.glances snapshots, g.after.selection = .plan id ∧ followingLines g.prints = [] := by
  intro g hg
  have kept : g.before.selection = .plan id ∧ g.after.selection = .plan id := by
    refine glances_invariant (P := fun w => w.selection = .plan id) h ?_ g hg
    intro events he w plan
    refine Eq.trans (Selection.reconcile_of_isKnown ?_) plan
    intro other same
    obtain rfl : id = other := Selection.plan.inj (plan.symm.trans same)
    exact Plan.mem_known_iff.mpr (found events he)
  have orderly := w.glances_orderly snapshots g hg
  exact ⟨kept.2, orderly.followingLine.trans (if_pos (kept.2.trans kept.1.symm))⟩

/-- What is true of all looks of a watcher. -/
structure Steady (w : Watch) (snapshots : List (List Event)) (looks : List Glance) : Prop where
  events : looks.map (·.events) = snapshots
  orderly : ∀ g ∈ looks, g.Orderly
  /-- A watcher that has come to follow everything does so ever after. -/
  all : looks.Pairwise fun g later => g.after.selection = .all → later.after.selection = .all
  /-- So does one that has followed everything from the start. -/
  allFirst : w.selection = .all → ∀ g ∈ looks, g.after.selection = .all
  /-- A plan of which there is an event each time is followed throughout, and no line says
  so. -/
  plan : ∀ id, w.selection = .plan id →
    (∀ events ∈ snapshots, ∃ e ∈ events, e.BelongsTo id) →
      ∀ g ∈ looks, g.after.selection = .plan id ∧ followingLines g.prints = []

/-- **What a watcher follows moves only where it has to**, whatever it follows at first and
whatever it is shown. -/
theorem watcher_moves_steadily (w : Watch) (snapshots : List (List Event)) :
    Steady w snapshots (w.glances snapshots) where
  events := w.glances_events snapshots
  orderly := w.glances_orderly snapshots
  all := w.pairwise_glances snapshots
  allFirst := fun h => glances_of_all h snapshots
  plan := fun _ h found => glances_of_plan h found

end PipelineWatch.Watch
