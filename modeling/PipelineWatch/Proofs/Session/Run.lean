import PipelineWatch.Proofs.Session.Feed
import PipelineWatch.Proofs.Session.Idle

/-!
Runs are schedules. After each operation of a run the session is idle, and the run
is one of the schedules with its operations: waiting is cut at the times when an
attempt is due, and the turns of the task stand where they can be made.
-/
namespace PipelineWatch.Session

/-! ### Idle at every step -/

/-- An idle session that pauses is not due yet. -/
theorem IsIdle.early {s : Session} (h : s.IsIdle) {due : Nat} (ht : s.task = .pausing due) :
    s.clock < due := by
  cases isIdle_iff.mp h with
  | pausing due' _ ht' early =>
    obtain rfl : due = due' := Task.pausing.inj (ht.symm.trans ht')
    exact early
  | unopened ht' => simp [ht] at ht'
  | finished ht' => simp [ht] at ht'
  | hanging _ ht' => simp [ht] at ht'
  | reading _ _ ht' => simp [ht] at ht'

theorem IsIdle.pass {s : Session} (h : s.IsIdle) {ms : Nat}
    (early : ∀ due, s.task = .pausing due → s.clock + ms < due) : (s.pass ms).IsIdle := by
  refine isIdle_iff.mpr ?_
  cases isIdle_iff.mp h with
  | unopened ht => exact .unopened ht
  | finished ht => exact .finished ht
  | hanging live ht => exact .hanging live ht
  | reading n live ht empty => exact .reading n live ht empty
  | pausing due live ht => exact .pausing due live ht (early due ht)

/-- A pause that a turn begins lasts a delay. -/
theorem Advance.due {s t : Session} (ha : Advance s t) :
    ∀ due, t.task = .pausing due → due = t.clock + t.delay := by
  intro due ht
  cases ha with
  | refused => exact (Task.pausing.inj ht).symm
  | lost => exact (Task.pausing.inj ht).symm
  | frame n link bytes waiting live reading => simp [reading] at ht
  | _ => simp at ht

theorem settle_due {s : Session} (busy : ¬ s.IsIdle) :
    ∀ due, s.settle.task = .pausing due → due = s.clock + s.delay := by
  -- at least one turn is made, and every turn that ends in a pause has begun it
  obtain ⟨t, ht⟩ : ∃ t, s.turn true = some t := Option.ne_none_iff_exists'.mp busy
  have ha := turn_advances ht
  have hsettle : s.settle = settleWithin (load s.links + 3) t := by
    rw [settle, turnsAhead_eq, settleWithin, ht]
  have hrule : ∀ due, s.settle.task = .pausing due →
      due = s.settle.clock + s.settle.delay := by
    rw [hsettle]
    exact settleWithin_rule
      (P := fun u => ∀ due, u.task = .pausing due → due = u.clock + u.delay)
      (fun _ _ hb _ => hb.due) _ ha.due
  intro due hp
  rw [hrule due hp, settle_clock, settle_delay]

section

variable {P : Session → Prop} (turn : ∀ s t, Advance s t → P s → P t)
  (pass : ∀ s ms, (∀ due, s.task = .pausing due → s.clock + ms ≤ due) → P s → P (s.pass ms))

include turn pass

/-- Time has passed up to `target` when as many delays fit in as there are wakes. The
clock goes beyond no attempt that is due, and what such steps and turns keep holds. -/
theorem passTime_rule {target wakes : Nat} {s : Session} (hd : 0 < s.delay) (h : s.IsIdle)
    (hP : P s) (hle : s.clock ≤ target)
    (hlast : ∀ due, s.task = .pausing due → target < due + wakes * s.delay) :
    P (passTime wakes target s) ∧ (passTime wakes target s).IsIdle := by
  induction wakes generalizing s with
  | zero =>
    have early : ∀ due, s.task = .pausing due → s.clock + (target - s.clock) < due := by
      intro due ht
      have := hlast due ht
      omega
    exact ⟨pass s _ (fun due ht => Nat.le_of_lt (early due ht)) hP, h.pass early⟩
  | succ wakes ih =>
    unfold passTime
    split
    · rename_i due ht
      split
      · rename_i hdue
        -- the clock goes to the attempt, and the next pause ends a delay later
        have early := h.early ht
        have hclock : (s.pass (due - s.clock)).clock = due := by
          show s.clock + (due - s.clock) = due
          omega
        have busy : ¬ (s.pass (due - s.clock)).IsIdle := by
          intro hi
          have hlt := hi.early ht
          omega
        have hpass : P (s.pass (due - s.clock)) := by
          refine pass s _ (fun due' ht' => ?_) hP
          obtain rfl : due = due' := Task.pausing.inj (ht.symm.trans ht')
          exact Nat.le_of_eq hclock
        have hdelay : (s.pass (due - s.clock)).settle.delay = s.delay := settle_delay _
        refine ih (hdelay ▸ hd) (settle_isIdle hd) (settleWithin_rule turn _ hpass) ?_ ?_
        · rw [settle_clock, hclock]
          exact hdue
        · intro due' ht'
          have hnew := settle_due busy due' ht'
          have hold := hlast due ht
          rw [hclock] at hnew
          rw [hdelay, hnew]
          show target < due + s.delay + wakes * s.delay
          rw [Nat.succ_mul] at hold
          omega
      · have early : ∀ due', s.task = .pausing due' → s.clock + (target - s.clock) < due' := by
          intro due' ht'
          obtain rfl : due = due' := Task.pausing.inj (ht.symm.trans ht')
          omega
        exact ⟨pass s _ (fun due' ht' => Nat.le_of_lt (early due' ht')) hP, h.pass early⟩
    · rename_i hno
      exact ⟨pass s _ (fun due ht => absurd ht (hno due)) hP,
        h.pass fun due ht => absurd ht (hno due)⟩

theorem wait_rule {s : Session} (hd : 0 < s.delay) (h : s.IsIdle) (hP : P s) (ms : Nat) :
    P (s.wait ms) ∧ (s.wait ms).IsIdle := by
  refine passTime_rule turn pass hd h hP (Nat.le_add_right ..) fun due ht => ?_
  have early := h.early ht
  have hmax : max s.delay 1 = s.delay := Nat.max_eq_left hd
  have hms : ms < (ms / s.delay + 1) * s.delay := by
    rw [Nat.mul_comm]
    exact Nat.lt_mul_div_succ ms hd
  rw [hmax]
  omega

end

theorem wait_isIdle {s : Session} (hd : 0 < s.delay) (h : s.IsIdle) (ms : Nat) :
    (s.wait ms).IsIdle :=
  (wait_rule (P := fun _ => True) (fun _ _ _ _ => trivial) (fun _ _ _ _ => trivial) hd h
    trivial ms).2

theorem happen_delay (s : Session) (o : Operation) : (s.happen o).delay = s.delay := by
  cases o with
  | start =>
    show s.start.delay = s.delay
    unfold start
    split <;> rfl
  | clearEvents => exact (clear_alike s _ _).delay
  | clearApprovals => exact (clear_alike s _ _).delay
  | _ => rfl

theorem passTime_delay (wakes target : Nat) (s : Session) :
    (passTime wakes target s).delay = s.delay := by
  induction wakes generalizing s with
  | zero => rfl
  | succ wakes ih =>
    unfold passTime
    split
    · split
      · rw [ih, settle_delay]
        rfl
      · rfl
    · rfl

theorem step_delay (s : Session) (o : Operation) : (s.step o).delay = s.delay := by
  cases o with
  | wait ms => exact passTime_delay ..
  | _ => exact (settle_delay _).trans (happen_delay s _)

theorem run_append (s : Session) (xs ys : List Operation) :
    s.run (xs ++ ys) = (s.run xs).run ys :=
  List.foldl_append

theorem run_delay (s : Session) (os : List Operation) : (s.run os).delay = s.delay := by
  induction os generalizing s with
  | nil => rfl
  | cons o os ih => exact (ih _).trans (step_delay s o)

theorem step_isIdle {s : Session} (hd : 0 < s.delay) (h : s.IsIdle) (o : Operation) :
    (s.step o).IsIdle := by
  cases o with
  | wait ms => exact wait_isIdle hd h ms
  | _ => exact settle_isIdle ((happen_delay s _).symm ▸ hd)

/-- A session is idle after every run, if there is a delay between its attempts. -/
theorem run_isIdle {s : Session} (hd : 0 < s.delay) (h : s.IsIdle) (os : List Operation) :
    (s.run os).IsIdle := by
  induction os generalizing s with
  | nil => exact h
  | cons o os ih => exact ih ((step_delay s o).symm ▸ hd) (step_isIdle hd h o)

/-- What the turns keep, the operations other than waiting, and the time that passes
before an attempt is due, holds after every run. -/
theorem run_rule {P : Session → Prop} (turn : ∀ s t, Advance s t → P s → P t)
    (pass : ∀ s ms, (∀ due, s.task = .pausing due → s.clock + ms ≤ due) → P s → P (s.pass ms))
    (operation : ∀ s o, (∀ ms, o ≠ .wait ms) → P s → P (s.happen o)) {s : Session}
    (hd : 0 < s.delay) (h : s.IsIdle) (hP : P s) (os : List Operation) : P (s.run os) := by
  induction os generalizing s with
  | nil => exact hP
  | cons o os ih =>
    refine ih ((step_delay s o).symm ▸ hd) (step_isIdle hd h o) ?_
    cases o with
    | wait ms => exact (wait_rule turn pass hd h hP ms).1
    | _ => exact settleWithin_rule turn _ (operation s _ (by simp) hP)

/-! ### Runs as schedules -/

/-- The operations that do more than let time pass. -/
def stimuli : List Operation → List Operation
  | [] => []
  | .wait _ :: os => stimuli os
  | o :: os => o :: stimuli os

theorem stimuli_append (xs ys : List Operation) :
    stimuli (xs ++ ys) = stimuli xs ++ stimuli ys := by
  induction xs with
  | nil => rfl
  | cons o os ih => cases o <;> simp [stimuli, ih]

theorem sincePlanned_stimuli (n : Nat) (os : List Operation) :
    sincePlanned n (stimuli os) = stimuli (sincePlanned n os) := by
  induction os generalizing n with
  | nil => cases n <;> rfl
  | cons o os ih => cases o <;> cases n <;> simp [stimuli, sincePlanned, ih]

/-- Waiting feeds no link. -/
theorem feed_stimuli (n : Nat) (os : List Operation) : feed n (stimuli os) = feed n os := by
  have fed : ∀ os, framesFed n (stimuli os) = framesFed n os := by
    intro os
    induction os with
    | nil => rfl
    | cons o os ih => cases o <;> simp [stimuli, framesFed, stops, ih]
  rw [feed, sincePlanned_stimuli, fed]
  rfl

theorem operations_append (xs ys : List Moment) :
    operations (xs ++ ys) = operations xs ++ operations ys :=
  List.filterMap_append

theorem operations_turns (k : Nat) (heeds : Bool) :
    operations (List.replicate k (.turn heeds)) = [] := by
  induction k with
  | zero => rfl
  | succ k ih => exact ih

theorem settleWithin_scheduled (n : Nat) (s : Session) :
    ∃ k, settleWithin n s = s.after (List.replicate k (.turn true)) := by
  induction n generalizing s with
  | zero => exact ⟨0, rfl⟩
  | succ n ih =>
    unfold settleWithin
    split
    · exact ⟨0, rfl⟩
    · rename_i t ht
      obtain ⟨k, hk⟩ := ih t
      refine ⟨k + 1, ?_⟩
      have hn : s.next (.turn true) = t := by simp [next, ht]
      rw [hk, List.replicate_succ]
      show _ = (s.next (.turn true)).after _
      rw [hn]

/-- The session `t` comes out of `s` by a schedule with these operations, waiting
aside. -/
def Plays (s : Session) (os : List Operation) (t : Session) : Prop :=
  ∃ schedule, t = s.after schedule ∧ stimuli (operations schedule) = stimuli os

theorem Plays.trans {s t u : Session} {xs ys : List Operation} (h : s.Plays xs t)
    (h' : t.Plays ys u) : s.Plays (xs ++ ys) u := by
  obtain ⟨schedule, rfl, hs⟩ := h
  obtain ⟨later, rfl, hl⟩ := h'
  refine ⟨schedule ++ later, (after_append ..).symm, ?_⟩
  rw [operations_append, stimuli_append, stimuli_append, hs, hl]

theorem plays_settle (s : Session) : s.Plays [] s.settle := by
  obtain ⟨k, hk⟩ := settleWithin_scheduled s.turnsAhead s
  exact ⟨_, hk, by rw [operations_turns]⟩

theorem plays_happen (s : Session) (o : Operation) : s.Plays [o] (s.happen o) :=
  ⟨[.operation o], rfl, rfl⟩

theorem plays_pass (s : Session) (ms : Nat) : s.Plays [] (s.pass ms) :=
  ⟨[.operation (.wait ms)], rfl, rfl⟩

theorem plays_passTime (wakes target : Nat) (s : Session) :
    s.Plays [] (passTime wakes target s) := by
  induction wakes generalizing s with
  | zero => exact plays_pass ..
  | succ wakes ih =>
    unfold passTime
    split
    · split
      · exact ((plays_pass s _).trans (plays_settle _)).trans (ih _)
      · exact plays_pass ..
    · exact plays_pass ..

theorem plays_step (s : Session) (o : Operation) : s.Plays [o] (s.step o) := by
  cases o with
  | wait ms => exact plays_passTime ..
  | _ => exact (plays_happen s _).trans (plays_settle _)

/-- A run is a schedule with the operations of the run. -/
theorem plays_run (s : Session) (os : List Operation) : s.Plays os (s.run os) := by
  induction os generalizing s with
  | nil => exact ⟨[], rfl, rfl⟩
  | cons o os ih => exact (plays_step s o).trans (ih _)

end PipelineWatch.Session
