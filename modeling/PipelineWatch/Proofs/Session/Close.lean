import PipelineWatch.Proofs.Session.Idle

/-!
The end of a session. A session that was closed or given up is over: nothing that
is seen of it moves any more, whatever happens to it and to the network, and the
next turn of its task, which is due at once, is the last one.
-/
namespace PipelineWatch.Session

/-- The session was opened, and is closed or given up. -/
def Over (s : Session) : Prop :=
  s.phase = .closed ∨ s.phase = .gone

theorem Over.not_live {s : Session} (h : s.Over) : s.phase ≠ .live := by
  rcases h with h | h <;> simp [h]

theorem not_over_of_live {s : Session} (live : s.phase = .live) : ¬ s.Over := fun h =>
  h.not_live live

/-! ### Turns of a session that is over -/

/-- A turn of a session that is not live does nothing but end the task. -/
theorem Advance.of_not_live {s t : Session} (h : Advance s t) (dead : s.phase ≠ .live) :
    t.task = .finished ∧ Unmoved s t := by
  cases h with
  | attempt live => exact absurd live dead
  | refused live => exact absurd live dead
  | connected n live => exact absurd live dead
  | frame n link bytes waiting live => exact absurd live dead
  | lost n link live => exact absurd live dead
  | ended => exact ⟨rfl, rfl, rfl, rfl, rfl⟩

/-! ### Operations on a session that is over -/

theorem Over.opened {s : Session} (h : s.Over) : s.phase ≠ .unopened := by
  rcases h with h | h <;> simp [h]

theorem happen_over {s : Session} (h : s.Over) (o : Operation) :
    (s.happen o).Over ∧ Unmoved s (s.happen o) := by
  have keep : ∀ t, t = s → t.Over ∧ Unmoved s t := by
    rintro t rfl
    exact ⟨h, .refl t⟩
  cases o with
  | clearEvents => exact keep _ (clear_of_not_live h.not_live ..)
  | clearApprovals => exact keep _ (clear_of_not_live h.not_live ..)
  | start => exact keep _ (if_neg h.opened)
  | close =>
    refine ⟨?_, rfl, rfl, rfl, rfl⟩
    rcases h with h | h <;> simp [Over, happen, close, h, Phase.close]
  | leave =>
    refine ⟨?_, rfl, rfl, rfl, rfl⟩
    rcases h with h | h <;> simp [Over, happen, leave, h, Phase.leave]
  | _ => exact ⟨h, rfl, rfl, rfl, rfl⟩

theorem next_over {s : Session} (h : s.Over) (m : Moment) :
    (s.next m).Over ∧ Unmoved s (s.next m) := by
  cases m with
  | operation o => exact happen_over h o
  | turn heeds =>
    rcases next_turn s heeds with he | ha
    · rw [he]
      exact ⟨h, .refl s⟩
    · exact ⟨by rwa [Over, ha.phase], (ha.of_not_live h.not_live).2⟩

/-- A session that is over stays so, and nothing that is seen of it moves. -/
theorem after_over {s : Session} (h : s.Over) (schedule : List Moment) :
    (s.after schedule).Over ∧ Unmoved s (s.after schedule) := by
  induction schedule generalizing s with
  | nil => exact ⟨h, .refl s⟩
  | cons m schedule ih =>
    obtain ⟨hn, hu⟩ := next_over h m
    obtain ⟨ho, hr⟩ := ih hn
    exact ⟨ho, hu.trans hr⟩

/-! ### The last turn -/

/-- The end of the session is reason enough for a turn, whatever the task waits
for. -/
theorem turn_of_over {s : Session} (h : s.Over) (absent : s.task ≠ .absent)
    (unfinished : s.task ≠ .finished) (heeds : Bool) : ∃ t, s.turn heeds = some t := by
  have hq : ∃ t, s.quit = some t := by
    unfold quit
    cases htask : s.task with
    | absent => exact absurd htask absent
    | finished => exact absurd htask unfinished
    | starting => exact ⟨_, rfl⟩
    | attempting meets => exact ⟨_, rfl⟩
    | reading n => exact ⟨_, rfl⟩
    | pausing due => exact ⟨_, rfl⟩
  rw [turn_of_not_live h.not_live]
  cases heeds with
  | true => exact hq
  | false =>
    obtain ⟨t, ht⟩ := hq
    cases hp : s.proceed with
    | none => exact ⟨t, ht⟩
    | some u => exact ⟨u, rfl⟩

theorem turn_of_finished {s : Session} (h : s.task = .finished) (heeds : Bool) :
    s.turn heeds = none := by
  have hp : s.proceed = none := by simp [proceed, h]
  have hq : s.quit = none := by simp [quit, h]
  cases heeds <;> simp [turn, hp, hq]

theorem happen_task {s : Session} (h : s.Over) (o : Operation) :
    (s.happen o).task = s.task := by
  cases o with
  | start => rw [show s.happen .start = s from if_neg h.opened]
  | clearEvents => exact (clear_alike s _ _).task
  | clearApprovals => exact (clear_alike s _ _).task
  | _ => rfl

/-- A task that has ended in a session that is over is not begun again. -/
theorem after_finished {s : Session} (h : s.Over) (ht : s.task = .finished)
    (schedule : List Moment) : (s.after schedule).task = .finished := by
  induction schedule generalizing s with
  | nil => exact ht
  | cons m schedule ih =>
    refine ih (next_over h m).1 ?_
    cases m with
    | operation o => exact (happen_task h o).trans ht
    | turn heeds => simp [next, turn_of_finished ht, ht]

/-- The turn that ends the task of a session that is over. It needs no time. -/
theorem turn_ends {s : Session} (h : s.Over) (attended : s.Attended)
    (unfinished : s.task ≠ .finished) (heeds : Bool) :
    ∃ t, s.turn heeds = some t ∧ t.task = .finished ∧ t.clock = s.clock := by
  obtain ⟨t, ht⟩ := turn_of_over h (attended.since h.opened) unfinished heeds
  have ha := turn_advances ht
  exact ⟨t, ht, (ha.of_not_live h.not_live).1, ha.clock⟩

theorem next_turn_finished {s : Session} (h : s.Over) (attended : s.Attended)
    (heeds : Bool) : (s.next (.turn heeds)).task = .finished := by
  by_cases hf : s.task = .finished
  · simp [next, turn_of_finished hf, hf]
  · obtain ⟨t, ht, htask, -⟩ := turn_ends h attended hf heeds
    simp [next, ht, htask]

/-- One turn is enough, wherever it stands in the schedule. -/
theorem after_turn_finished {s : Session} (h : s.Over) (attended : s.Attended)
    {schedule : List Moment} {heeds : Bool} (hm : .turn heeds ∈ schedule) :
    (s.after schedule).task = .finished := by
  -- what comes before that turn leaves the session over, what follows finds the task ended
  obtain ⟨before, later, rfl⟩ := List.append_of_mem hm
  have hb := (after_over h before).1
  have ht := next_turn_finished hb (attended.after before) heeds
  rw [after_append]
  exact after_finished (next_over hb (.turn heeds)).1 ht later

/-- A session that is over settles with its last turn. -/
theorem settle_of_over {s : Session} (h : s.Over) : s.settle = s.next (.turn true) := by
  rw [settle, turnsAhead_eq, settleWithin, next]
  cases ht : s.turn true with
  | none => rfl
  | some t =>
    have htask := ((turn_advances ht).of_not_live h.not_live).1
    unfold settleWithin
    simp [turn_of_finished htask]

theorem settle_finished {s : Session} (h : s.Over) (attended : s.Attended) :
    s.settle.task = .finished := by
  rw [settle_of_over h]
  exact next_turn_finished h attended true

/-! ### Closing -/

theorem happen_closing {s : Session} {closing : Operation}
    (h : closing = .close ∨ closing = .leave) (opened : s.phase ≠ .unopened) :
    (s.happen closing).Over := by
  rcases h with rfl | rfl
  · show s.phase.close = .closed ∨ s.phase.close = .gone
    cases hp : s.phase <;> simp_all [Phase.close]
  · show s.phase.leave = .closed ∨ s.phase.leave = .gone
    cases hp : s.phase <;> simp_all [Phase.leave]

/-- A session that the settings and some schedule lead to. -/
def Reachable (c : Config) (s : Session) : Prop :=
  ∃ schedule, (ofConfig c).after schedule = s

/-- The session `t` was `s` when it ended. -/
structure EndedAs (s t : Session) : Prop where
  status : t.status = s.status
  stores : t.stores = s.stores
  sent : t.sent = s.sent
  attempts : t.attempts = s.attempts
  /-- The next turn of the task needs no time and is the last one. -/
  last : t.task ≠ .finished → ∀ heeds, ∃ u, t.turn heeds = some u ∧ u.task = .finished ∧
    u.clock = t.clock

theorem Over.endedAs {s t : Session} (h : t.Over) (attended : t.Attended)
    (unmoved : Unmoved s t) : s.EndedAs t where
  status := unmoved.status
  stores := unmoved.stores
  sent := by rw [sent, unmoved.journal, sent]
  attempts := by rw [attempts, unmoved.journal, attempts]
  last := turn_ends h attended

/-- **Nothing moves after the close.** Whatever a session was doing when it was
closed or given up, and whatever is done to it and to the network afterwards, its
status, its stores, the updates told and the attempts made are those of that
moment. Its task ends with its next turn, whatever it waits for, and takes no time
for it. -/
theorem nothing_moves_after_close {c : Config} {s : Session} (reachable : Reachable c s)
    (opened : s.phase ≠ .unopened) {closing : Operation}
    (h : closing = .close ∨ closing = .leave) (later : List Moment) :
    s.EndedAs ((s.happen closing).after later) ∧
      (∀ heeds, .turn heeds ∈ later → ((s.happen closing).after later).task = .finished) ∧
        (s.step closing).task = .finished ∧ (s.step closing).clock = s.clock := by
  have attended : (s.happen closing).Attended := by
    obtain ⟨schedule, rfl⟩ := reachable
    exact (after_attended c schedule).happen closing
  have ended := happen_closing h opened
  have unmoved : Unmoved s (s.happen closing) := by
    rcases h with rfl | rfl <;> exact happen_unmoved s (by simp) (by simp)
  obtain ⟨hover, hstill⟩ := after_over ended later
  have step : s.step closing = (s.happen closing).settle := by
    rcases h with rfl | rfl <;> rfl
  refine ⟨hover.endedAs (attended.after later) (unmoved.trans hstill), fun heeds hm =>
    after_turn_finished ended attended hm, ?_, ?_⟩
  · rw [step]
    exact settle_finished ended attended
  · rw [step, settle_clock]
    rcases h with rfl | rfl <;> rfl

/-- A session that is closed while it reads, with a frame on its link. -/
theorem nothing_moves_after_close_reading :
    ∃ s t : Session, s.task = .reading 0 ∧ s.waitingOn 0 = 1 ∧
      t = (s.happen .close).after
        [.operation (.frames 0 [[2]]), .operation (.wait 9000), .operation .clearEvents,
          .turn false] ∧
      s.EndedAs t ∧ t.task = .finished := by
  have h := nothing_moves_after_close (c := sampleConfig)
    ⟨[.operation .planLink, .operation .start, .turn true, .turn true,
      .operation (.frames 0 [[1]])], rfl⟩ (by decide) (.inl rfl)
    [.operation (.frames 0 [[2]]), .operation (.wait 9000), .operation .clearEvents,
      .turn false]
  exact ⟨_, _, by decide, by decide, rfl, h.1, h.2.1 false (by decide)⟩

end PipelineWatch.Session
