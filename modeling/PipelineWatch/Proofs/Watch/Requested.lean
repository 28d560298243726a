import PipelineWatch.Frame
import PipelineWatch.Proofs.Plan.Selection
import PipelineWatch.Proofs.Watch.Sitting

/-!
The plan that a watcher was asked for and the one that it follows. A session that is looked
at once is shown with the plan that was asked for, whenever that plan is known. A watcher at
work keeps to it as long as every look at the events finds it. At the first look that does
not, the watcher moves on to another plan, and what it follows from then on has nothing to do
with the plan that was asked for, even if that one turns up later.
-/
namespace PipelineWatch

/-! ### Reconciling one look after the other -/

namespace Plan.Selection

variable {s : Selection} {known : List String}

/-- A plan that every look finds is kept. -/
theorem foldl_reconcile_of_isKnown {looks : List (List String)}
    (h : ∀ known ∈ looks, s.IsKnown known) : looks.foldl reconcile s = s := by
  induction looks with
  | nil => rfl
  | cons known looks ih =>
    rw [List.foldl_cons, reconcile_of_isKnown (h known (by simp))]
    exact ih fun later hl => h later (by simp [hl])

/-- The first look that misses a plan leaves nothing of it. -/
theorem foldl_reconcile_of_not_isKnown {before after : List (List String)}
    (found : ∀ earlier ∈ before, s.IsKnown earlier) (missed : ¬ s.IsKnown known) :
    (before ++ known :: after).foldl reconcile s = after.foldl reconcile (fallback known) := by
  rw [List.foldl_append, foldl_reconcile_of_isKnown found, List.foldl_cons,
    reconcile_of_not_isKnown missed]

end Plan.Selection

open Plan (Selection)

namespace Watch

theorem foldl_refresh_selection (w : Watch) (looks : List (List Event)) :
    (looks.foldl (fun w events => (w.refresh events).1) w).selection =
      (looks.map Plan.known).foldl Selection.reconcile w.selection := by
  induction looks generalizing w with
  | nil => rfl
  | cons events looks ih => exact ih (w.refresh events).1

/-- A session that is looked at once is shown with a single selection. -/
theorem settledPrints_following (s : Session) (requested : Selection) :
    (settledPrints s requested).filterMap Print.following? =
      [requested.reconcile (Plan.known s.stores.events.list)] := by
  have events (es : List Event) : (es.map Print.event).filterMap Print.following? = [] := by
    simp [List.filterMap_map, Print.following?, Function.comp_def]
  have approvals (as : List Approval) :
      (as.map Print.approval).filterMap Print.following? = [] := by
    simp [List.filterMap_map, Print.following?, Function.comp_def]
  simp only [settledPrints, List.filterMap_append, events, approvals]
  rfl

namespace Sitting

/-- A session that is looked at once, by someone who asked for this selection, is shown with
the selection that the watcher follows. -/
def Agrees (requested : Selection) (s : Sitting) : Prop :=
  (settledPrints s.live.session requested).filterMap Print.following? = [s.live.watch.selection]

/-- An event that has come was told of. -/
def Announced (s : Sitting) : Prop :=
  ∃ u ∈ s.live.session.sent, u.movesEvents = true ∧ u ≠ .eventsCleared

instance (requested : Selection) (s : Sitting) : Decidable (s.Agrees requested) :=
  inferInstanceAs (Decidable (_ = _))

instance (s : Sitting) : Decidable s.Announced :=
  inferInstanceAs (Decidable (∃ u ∈ s.live.session.sent, u.movesEvents = true ∧ u ≠ .eventsCleared))

instance (s : Sitting) : Decidable s.CaughtUp :=
  inferInstanceAs (Decidable (_ = _))

variable {requested : Selection} {s : Sitting}

theorem agrees_iff : s.Agrees requested ↔
    requested.reconcile (Plan.known s.live.session.stores.events.list) =
      s.live.watch.selection := by
  rw [Agrees, settledPrints_following, List.cons.injEq, and_iff_left rfl]

theorem Sound.selection (h : Sound requested s) :
    s.live.watch.selection = (s.looks.map Plan.known).foldl Selection.reconcile requested := by
  rw [h.watch, foldl_refresh_selection]
  rfl

/-- The plans in the store are those of the last look. -/
theorem Sound.looks_eq (h : Sound requested s) (caughtUp : s.CaughtUp) (announced : s.Announced) :
    ∃ before last, s.looks = before ++ [last] ∧
      Plan.known s.live.session.stores.events.list = Plan.known last := by
  rcases List.eq_nil_or_concat s.looks with none | ⟨before, last, looks⟩
  · obtain ⟨u, hu, moves, -⟩ := announced
    exact absurd (h.unlooked none caughtUp.still u hu) (by simp [moves])
  · rw [List.concat_eq_append] at looks
    refine ⟨before, last, looks, ?_⟩
    rw [← h.plans caughtUp.still, h.watch, looks, List.foldl_append]
    rfl

/-- How a watcher heeds the selection that it was asked for. -/
structure Heeds (requested : Selection) (s : Sitting) : Prop where
  /-- Each look at the events reconciles what the look before it has left. -/
  selection : s.live.watch.selection =
    (s.looks.map Plan.known).foldl Selection.reconcile requested
  /-- A session that is looked at once is shown with the selection that the watcher follows,
  if that is what is asked for. -/
  settled : s.CaughtUp → s.Announced → s.Agrees s.live.watch.selection
  /-- It is the same one that the watcher was asked for if every look has found that. -/
  kept : s.CaughtUp → s.Announced → (∀ events ∈ s.looks, requested.IsKnown (Plan.known events)) →
    s.live.watch.selection = requested ∧ s.Agrees requested
  /-- After the first look that misses it, nothing of it is left. -/
  lost : ∀ before events after, s.looks = before ++ events :: after →
    (∀ earlier ∈ before, requested.IsKnown (Plan.known earlier)) →
    ¬ requested.IsKnown (Plan.known events) →
    s.live.watch.selection =
      (after.map Plan.known).foldl Selection.reconcile (Selection.fallback (Plan.known events))

theorem Sound.heeds (h : Sound requested s) : Heeds requested s where
  selection := h.selection
  settled := by
    intro caughtUp announced
    obtain ⟨before, last, looks, known⟩ := h.looks_eq caughtUp announced
    rw [agrees_iff, known]
    refine Selection.reconcile_of_isKnown ?_
    rw [h.selection, looks, List.map_append, List.foldl_append]
    exact Selection.isKnown_reconcile _ _
  kept := by
    intro caughtUp announced found
    obtain ⟨before, last, looks, known⟩ := h.looks_eq caughtUp announced
    have same : s.live.watch.selection = requested := by
      rw [h.selection]
      exact Selection.foldl_reconcile_of_isKnown (List.forall_mem_map.mpr found)
    refine ⟨same, ?_⟩
    rw [agrees_iff, known, same]
    exact Selection.reconcile_of_isKnown (found last (by simp [looks]))
  lost := by
    intro before events after looks found missed
    rw [h.selection, looks, List.map_append, List.map_cons]
    exact Selection.foldl_reconcile_of_not_isKnown (List.forall_mem_map.mpr found) missed

/-- A watcher keeps to the plan that it was asked for until it looks at events without it. -/
theorem watcher_heeds_requested (c : Config) (requested : Selection)
    (happenings : List Happening) :
    Heeds requested ((start c requested).after happenings) :=
  ((sound_start c requested).after happenings).heeds

/-! ### A plan that turns up late -/

/-- The frame of an event of this plan. -/
def planFrame (id plan : String) : List UInt8 :=
  Text.Utf8.ofString <| Frame.encode <| .event
    { id, kind := .planCreated, version := Event.defaultVersion, timestamp := "", producer := "",
      key := "", payload := [("plan_id", .text plan)] }

/-- An event of the plan `P2` comes after one of the plan `P1`, and the watcher reads all there
is after each of them. It prints the plans `P1` and then `P2,P1`. -/
def latePlan : List Happening :=
  [.session (.operation .planLink), .session (.operation .start), .session (.turn true),
    .session (.turn true),
    .session (.operation (.frames 0 [planFrame "a" "P1"])), .session (.turn true),
    .receive, .receive,
    .session (.operation (.frames 0 [planFrame "b" "P2"])), .session (.turn true),
    .receive]

/-- A watcher that was asked for the plan `P2` meanwhile. -/
def lateSitting : Sitting :=
  (start Session.sampleConfig (.plan "P2")).after latePlan

/-- A watcher that was asked for a plan may follow another one although the plan is known. -/
theorem requested_plan_not_followed :
    ¬ ∀ (c : Config) (requested : Selection) (happenings : List Happening),
      ((start c requested).after happenings).CaughtUp →
        ((start c requested).after happenings).Announced →
          ((start c requested).after happenings).Agrees requested := by
  intro agrees
  obtain ⟨caughtUp, announced, strays⟩ : lateSitting.CaughtUp ∧ lateSitting.Announced ∧
      ¬ lateSitting.Agrees (.plan "P2") := by
    decide +kernel
  exact strays (agrees _ _ _ caughtUp announced)

end Sitting

end Watch

end PipelineWatch
