import PipelineWatch.Proofs.Session.Statuses

/-!
When a session makes attempts. The first one is made at the opening. Between two attempts
the session tells once that it is disconnected, and the second one follows that by exactly
one delay, however long the waits are in which this falls. No attempt is made by a session
that is not live, while a link is open or while another attempt is not answered.
-/
namespace PipelineWatch.Session

/-- The time of the deed, if it tells that the session is disconnected. -/
def Entry.lossTime? (e : Entry) : Option Nat :=
  match e.deed with
  | .tell (.status .disconnected) => some e.time
  | _ => none

/-- The times at which the session has told that it is disconnected since its last
attempt. -/
def losses (journal : List Entry) : List Nat :=
  (journal.takeWhile fun e => e.attemptTime?.isNone).filterMap Entry.lossTime?

/-- How often a status is disconnected and the next one is connecting. -/
def returns (path : List Status) : Nat :=
  (path.zip path.tail).count (.disconnected, .connecting)

theorem returns_concat {path : List Status} {a : Status} (h : path.getLast? = some a)
    (b : Status) :
    returns (path ++ [b]) =
      returns path + if (a, b) = (.disconnected, .connecting) then 1 else 0 := by
  have pairs : (path ++ [b]).zip (path ++ [b]).tail = path.zip path.tail ++ [(a, b)] := by
    obtain ⟨front, rfl⟩ := List.getLast?_eq_some_iff.mp h
    clear h
    induction front with
    | nil => rfl
    | cons x front ih => cases front <;> simp_all
  rw [returns, pairs, List.count_append, List.count_singleton, returns]
  simp

/-! ### Entries that are no attempts -/

theorem losses_append {e : List Entry} (h : e.filterMap Entry.attemptTime? = [])
    (journal : List Entry) :
    losses (e ++ journal) = e.filterMap Entry.lossTime? ++ losses journal := by
  have none : ∀ x ∈ e, x.attemptTime?.isNone = true := by
    simpa [List.filterMap_eq_nil_iff] using h
  rw [losses, List.takeWhile_append_of_pos none, List.filterMap_append, losses]

theorem losses_attempt (time : Nat) (earlier : List Entry) :
    losses (⟨time, .attempt⟩ :: earlier) = [] := rfl

theorem herald_attempts (s : Session) (status : Status) :
    (s.herald status).filterMap Entry.attemptTime? = [] :=
  filterMap_herald _ (fun _ _ => rfl) s status

theorem herald_losses (s : Session) {status : Status} (h : status ≠ .disconnected) :
    (s.herald status).filterMap Entry.lossTime? = [] := by
  unfold herald
  split
  · rfl
  · cases status <;> first | rfl | exact absurd rfl h

theorem herald_loss {s : Session} (h : s.status ≠ .disconnected) :
    (s.herald .disconnected).filterMap Entry.lossTime? = [s.clock] := by
  rw [herald, if_neg h]
  rfl

/-- Entries that are no attempts and tell no status. -/
structure Quiet (e : List Entry) : Prop where
  attempts : e.filterMap Entry.attemptTime? = []
  told : told e = []

theorem Quiet.losses {e : List Entry} (h : Quiet e) : e.filterMap Entry.lossTime? = [] := by
  refine List.filterMap_eq_nil_iff.mpr fun x hx => ?_
  obtain ⟨time, deed⟩ := x
  cases deed with
  | tell u =>
    cases u with
    | status status =>
      -- it would be among the statuses that are told
      have hs : status ∈ Session.told e := by
        simp only [Session.told, List.mem_reverse, List.mem_filterMap]
        exact ⟨_, ⟨_, hx, rfl⟩, rfl⟩
      rw [h.told] at hs
      exact absurd hs List.not_mem_nil
    | _ => rfl
  | _ => rfl

theorem quiet_reception (s : Session) (n : Nat) (frame : List UInt8) :
    Quiet (s.reception n frame) :=
  ⟨filterMap_reception _ (fun _ _ => rfl) s n frame, told_reception s n frame⟩

theorem told_append (e journal : List Entry) : told (e ++ journal) = told journal ++ told e := by
  simp [told]

/-- What operations enter is quiet. -/
theorem happen_quiet (s : Session) (o : Operation) :
    ∃ e, (s.happen o).journal = e ++ s.journal ∧ Quiet e := by
  rcases happen_journal s o with hj | ⟨u, hu, hj⟩
  · exact ⟨[], hj, rfl, rfl⟩
  · refine ⟨[_], hj, rfl, ?_⟩
    rcases hu with rfl | rfl <;> rfl

/-! ### Attempts in the journal -/

/-- What an attempt at this time finds in the journal. -/
structure Due (delay time : Nat) (earlier : List Entry) : Prop where
  connecting : (.connecting :: told earlier).getLast? = some .connecting
  spaced : earlier.filterMap Entry.attemptTime? = [] ∨
    ∃ loss, losses earlier = [loss] ∧ time = loss + delay

/-- All attempts were due when they were made. -/
def Paced (delay : Nat) : List Entry → Prop
  | [] => True
  | e :: earlier => (e.deed = .attempt → Due delay e.time earlier) ∧ Paced delay earlier

theorem Paced.due {delay time : Nat} {later earlier : List Entry}
    (h : Paced delay (later ++ ⟨time, .attempt⟩ :: earlier)) : Due delay time earlier := by
  induction later with
  | nil => exact h.1 rfl
  | cons e later ih => exact ih h.2

theorem Paced.append {delay : Nat} {journal : List Entry} (h : Paced delay journal)
    {e : List Entry} (he : e.filterMap Entry.attemptTime? = []) : Paced delay (e ++ journal) := by
  induction e with
  | nil => exact h
  | cons x e ih =>
    have none : x.attemptTime? = none ∧ e.filterMap Entry.attemptTime? = [] := by
      simpa [List.filterMap_eq_nil_iff] using he
    refine ⟨fun hx => ?_, ih none.2⟩
    simp [Entry.attemptTime?, hx] at none

/-- What the journal says while the task of a live session waits for this. -/
def Task.Stands (clock delay : Nat) (journal : List Entry) : Task → Prop
  | .starting => journal.filterMap Entry.attemptTime? = [] ∧ told journal = []
  | .pausing due => journal.filterMap Entry.attemptTime? ≠ [] ∧ clock ≤ due ∧
      ∃ loss, losses journal = [loss] ∧ due = loss + delay
  | _ => journal.filterMap Entry.attemptTime? ≠ [] ∧ losses journal = []

theorem Task.Stands.append {clock delay : Nat} {journal : List Entry} {task : Task}
    (h : task.Stands clock delay journal) {e : List Entry} (he : Quiet e) :
    task.Stands clock delay (e ++ journal) := by
  have hl : Session.losses (e ++ journal) = Session.losses journal := by
    rw [losses_append he.attempts, he.losses, List.nil_append]
  have ha : (e ++ journal).filterMap Entry.attemptTime? =
      journal.filterMap Entry.attemptTime? := by
    rw [List.filterMap_append, he.attempts, List.nil_append]
  have ht : Session.told (e ++ journal) = Session.told journal := by
    rw [told_append, he.told, List.append_nil]
  cases task <;> simpa only [Stands, hl, ha, ht] using h

/-- The attempts of the session and what the next one waits for. -/
structure Timed (s : Session) : Prop where
  paced : Paced s.delay s.journal
  stands : s.phase = .live → s.task.Stands s.clock s.delay s.journal
  count : s.attempts = [] ∨ s.attempts.length = 1 + returns (.connecting :: s.statuses)

/-! ### Turns -/

theorem attempts_of_journal {s t : Session} {e : List Entry} (hj : t.journal = e ++ s.journal)
    (he : e.filterMap Entry.attemptTime? = []) : t.attempts = s.attempts := by
  rw [attempts, hj, List.filterMap_append, he, List.nil_append, attempts]

/-- A status that is put is a return if it is connecting after disconnected. -/
theorem returns_put {s t : Session} (h : s.Announced) {status : Status}
    (told : t.statuses = s.statuses ++ if s.status = status then [] else [status]) :
    returns (.connecting :: t.statuses) = returns (.connecting :: s.statuses) +
      if (s.status, status) = (.disconnected, .connecting) then 1 else 0 := by
  by_cases same : s.status = status
  · subst same
    rw [if_pos rfl, List.append_nil] at told
    have hn : ¬ (s.status, s.status) = (Status.disconnected, Status.connecting) := by
      cases s.status <;> simp
    rw [told, if_neg hn, Nat.add_zero]
  · rw [if_neg same] at told
    rw [told, ← List.cons_append, returns_concat h.last]

/-- A turn that makes no attempt and puts a status other than connecting. -/
theorem Timed.put {s t : Session} (h : s.Timed) (announced : s.Announced)
    {e : List Entry} {status : Status} (journal : t.journal = e ++ s.journal)
    (quiet : e.filterMap Entry.attemptTime? = []) (puts : told e = told (s.herald status))
    (other : status ≠ .connecting) (delay : t.delay = s.delay)
    (stands : t.phase = .live → t.task.Stands t.clock t.delay t.journal) : t.Timed := by
  refine ⟨?_, stands, ?_⟩
  · rw [delay, journal]
    exact h.paced.append quiet
  · have hn : ¬ (s.status, status) = (Status.disconnected, Status.connecting) := by
      simp [other]
    rw [attempts_of_journal journal quiet,
      returns_put announced (statuses_of_put journal puts), if_neg hn]
    exact h.count

theorem Timed.attempt {s t : Session} (h : s.Timed) (announced : s.Announced)
    (after : t.Announced) (live : s.phase = .live)
    (awake : s.task = .starting ∨ ∃ due, s.task = .pausing due ∧ due ≤ s.clock)
    (journal : t.journal = ⟨s.clock, .attempt⟩ :: (s.herald .connecting ++ s.journal))
    (status : t.status = .connecting) (delay : t.delay = s.delay)
    {meets : Attempt} (task : t.task = .attempting meets) : t.Timed := by
  have stands := h.stands live
  have quiet := herald_attempts s .connecting
  have none : (s.herald .connecting ++ s.journal).filterMap Entry.attemptTime? = s.attempts := by
    rw [List.filterMap_append, quiet]
    rfl
  have attempts : t.attempts = s.clock :: s.attempts := by
    rw [← none, Session.attempts, journal]
    rfl
  have put : Session.told (⟨s.clock, .attempt⟩ :: s.herald .connecting) =
      Session.told (s.herald .connecting) := rfl
  have statuses := returns_put announced (statuses_of_put (t := t) journal put)
  refine ⟨?_, fun _ => ?_, .inr ?_⟩
  · rw [journal, delay]
    refine ⟨fun _ => ⟨?_, ?_⟩, h.paced.append quiet⟩
    · -- the status told last is the one that the turn puts
      have last := after.last
      rw [status] at last
      rw [← last, Session.statuses, sent, journal]
      rfl
    · rcases awake with ht | ⟨due, ht, hle⟩
      · rw [ht] at stands
        exact .inl (none.trans stands.1)
      · rw [ht] at stands
        obtain ⟨-, hge, loss, hl, hdue⟩ := stands
        refine .inr ⟨loss, ?_, ?_⟩
        · rw [losses_append quiet, herald_losses s (by simp), hl]
          rfl
        · show s.clock = loss + s.delay
          omega
  · rw [task, journal]
    exact ⟨by simp [Entry.attemptTime?], rfl⟩
  · rw [attempts, statuses, List.length_cons]
    rcases awake with ht | ⟨due, ht, -⟩
    · rw [ht] at stands
      have hs : s.statuses = [] := stands.2
      have ha : s.attempts = [] := stands.1
      have hst := announced.status_eq live .connecting (by rw [ht]; rfl)
      rw [hs, ha, hst]
      rfl
    · rw [ht] at stands
      have hst := announced.status_eq live .disconnected (by rw [ht]; rfl)
      have hc := h.count.resolve_left stands.1
      rw [hst, hc, if_pos rfl, Nat.add_assoc]

/-- A turn that begins a pause. -/
theorem Timed.pause {s t : Session} (h : s.Timed) (announced : s.Announced)
    (stands : s.attempts ≠ [] ∧ losses s.journal = []) (status : s.status ≠ .disconnected)
    (journal : t.journal = s.herald .disconnected ++ s.journal) (clock : t.clock = s.clock)
    (delay : t.delay = s.delay) (task : t.task = .pausing (s.clock + s.delay)) : t.Timed := by
  have quiet := herald_attempts s .disconnected
  have made : t.attempts ≠ [] := by
    rw [attempts_of_journal journal quiet]
    exact stands.1
  refine h.put announced journal quiet rfl (by simp) delay fun _ => ?_
  rw [task, clock, delay]
  refine ⟨made, Nat.le_add_right .., s.clock, ?_, rfl⟩
  rw [journal, losses_append quiet, herald_loss status, stands.2]
  rfl

/-- What is quiet leaves the attempts and their times as they are. -/
theorem Timed.keep {s t : Session} (h : s.Timed) {e : List Entry}
    (journal : t.journal = e ++ s.journal) (quiet : Quiet e) (delay : t.delay = s.delay)
    (stands : t.phase = .live → t.task.Stands t.clock t.delay t.journal) : t.Timed := by
  refine ⟨?_, stands, ?_⟩
  · rw [delay, journal]
    exact h.paced.append quiet.attempts
  · rw [attempts_of_journal journal quiet.attempts, statuses_of_journal journal, quiet.told,
      List.append_nil]
    exact h.count

theorem Timed.advance {s t : Session} (ha : Advance s t) (announced : s.Announced)
    (h : s.Timed) : t.Timed := by
  have after := announced.advance ha
  cases ha with
  | attempt live awake => exact h.attempt announced after live awake rfl rfl rfl rfl
  | refused live met =>
    have stands := h.stands live
    have status := announced.status_eq live .connecting (by rw [met]; rfl)
    rw [met] at stands
    exact h.pause announced stands (by simp [status]) rfl rfl rfl rfl
  | connected n live met =>
    have stands := h.stands live
    rw [met] at stands
    have quiet : (⟨s.clock, .connect n⟩ :: s.herald .connected).filterMap Entry.attemptTime? =
        [] := herald_attempts s .connected
    refine h.put announced (e := ⟨s.clock, .connect n⟩ :: s.herald .connected) rfl quiet rfl
      (by simp) rfl fun _ => ⟨?_, ?_⟩
    · rw [← List.cons_append, List.filterMap_append, quiet]
      exact stands.1
    · rw [← List.cons_append, losses_append quiet, stands.2, List.append_nil]
      exact herald_losses s (by simp)
  | frame n link bytes waiting live reading =>
    have quiet := quiet_reception s n bytes
    exact h.keep rfl quiet rfl fun _ => (h.stands live).append quiet
  | lost n link live reading =>
    have stands := h.stands live
    have status := announced.status_eq live .connected (by rw [reading]; rfl)
    rw [reading] at stands
    exact h.pause announced stands (by simp [status]) rfl rfl rfl rfl
  | ended links dead => exact ⟨h.paced, fun live => absurd live dead, h.count⟩

/-! ### Operations, and time -/

/-- Of all operations, only waiting takes time. -/
theorem happen_clock (s : Session) {o : Operation} (h : ∀ ms, o ≠ .wait ms) :
    (s.happen o).clock = s.clock := by
  cases o with
  | wait ms => exact absurd rfl (h ms)
  | clearEvents => exact (clear_kept ..).2
  | clearApprovals => exact (clear_kept ..).2
  | start =>
    show s.start.clock = s.clock
    unfold start
    split <;> rfl
  | _ => rfl

theorem Timed.happen {s : Session} (h : s.Timed) (attended : s.Attended) {o : Operation}
    (ho : ∀ ms, o ≠ .wait ms) : (s.happen o).Timed := by
  obtain ⟨e, journal, quiet⟩ := happen_quiet s o
  refine h.keep journal quiet (happen_delay s o) fun live => ?_
  rw [journal, happen_clock s ho, happen_delay]
  rcases happen_live live with ⟨was, task⟩ | ⟨unopened, task⟩
  · rw [task]
    exact (h.stands was).append quiet
  · rw [task, (attended.before unopened).2]
    have stands : Task.Stands s.clock s.delay [] .starting := ⟨rfl, rfl⟩
    exact stands.append quiet

/-- Time passes up to the time of the next attempt. -/
theorem Timed.pass {s : Session} (h : s.Timed) {ms : Nat}
    (early : ∀ due, s.task = .pausing due → s.clock + ms ≤ due) : (s.pass ms).Timed := by
  refine ⟨h.paced, fun live => ?_, h.count⟩
  have stands := h.stands live
  show s.task.Stands (s.clock + ms) s.delay s.journal
  cases ht : s.task with
  | pausing due =>
    rw [ht] at stands
    exact ⟨stands.1, early due ht, stands.2.2⟩
  | _ =>
    rw [ht] at stands
    exact stands

theorem run_timed (c : Config) (hd : 0 < c.reconnectDelay) (os : List Operation) :
    ((ofConfig c).run os).Timed := by
  have start : (ofConfig c).Attended ∧ (ofConfig c).Announced ∧ (ofConfig c).Timed :=
    ⟨after_attended c [], after_announced c [], trivial,
      fun live => by simp [ofConfig, idle] at live, .inl rfl⟩
  exact (run_rule (P := fun s => s.Attended ∧ s.Announced ∧ s.Timed)
    (fun _ _ ha h => ⟨h.1.advance ha, h.2.1.advance ha, h.2.2.advance ha h.2.1⟩)
    (fun s ms early h => ⟨h.1.happen (.wait ms), h.2.1.happen h.1 (.wait ms), h.2.2.pass early⟩)
    (fun _ o ho h => ⟨h.1.happen o, h.2.1.happen h.1 o, h.2.2.happen h.1 ho⟩)
    (s := ofConfig c) hd rfl start os).2.2

/-! ### The first attempt -/

/-- What is to be said of a turn that makes an attempt at the session `s`. -/
structure Alone (s : Session) : Prop where
  live : s.phase = .live
  /-- No link is open. -/
  closed : ∀ n, ¬ s.IsOpen n
  /-- No other attempt is to be answered. -/
  answered : ∀ meets, s.task ≠ .attempting meets

theorem Advance.attempts {s t : Session} (ha : Advance s t) :
    t.attempts = s.attempts ∨
      (t.attempts = s.clock :: s.attempts ∧ t.status = .connecting ∧ s.phase = .live ∧
        (s.task = .starting ∨ ∃ due, s.task = .pausing due ∧ due ≤ s.clock)) := by
  cases ha with
  | attempt live awake =>
    refine .inr ⟨?_, rfl, live, awake⟩
    have quiet := herald_attempts s .connecting
    show _ :: List.filterMap _ (s.herald .connecting ++ s.journal) = _
    rw [List.filterMap_append, quiet]
    rfl
  | refused => exact .inl (attempts_of_journal rfl (herald_attempts ..))
  | connected n =>
    exact .inl (attempts_of_journal (e := ⟨s.clock, .connect n⟩ :: s.herald .connected) rfl
      (herald_attempts s .connected))
  | frame n link bytes => exact .inl (attempts_of_journal rfl (quiet_reception s n bytes).attempts)
  | lost => exact .inl (attempts_of_journal rfl (herald_attempts ..))
  | ended => exact .inl rfl

theorem happen_attempts (s : Session) (o : Operation) : (s.happen o).attempts = s.attempts := by
  obtain ⟨e, journal, quiet⟩ := happen_quiet s o
  exact attempts_of_journal journal quiet.attempts

/-- Attempts are made by turns, of sessions that are live, hold no link and wait for no
answer. -/
theorem next_attempts {c : Config} {s : Session} (h : Reachable c s) (m : Moment) :
    (s.next m).attempts = s.attempts ∨
      ((s.next m).attempts = s.clock :: s.attempts ∧ (s.next m).status = .connecting ∧
        s.Alone) := by
  cases m with
  | operation o => exact .inl (happen_attempts s o)
  | turn heeds =>
    rcases next_turn s heeds with he | ha
    · exact .inl (by rw [he])
    · refine ha.attempts.imp_right fun ⟨made, status, live, awake⟩ => ⟨made, status, live, ?_, ?_⟩
      · intro n hn
        rw [isOpen_iff_reading h live] at hn
        rcases awake with ht | ⟨due, ht, -⟩ <;> simp [ht] at hn
      · intro meets hm
        rcases awake with ht | ⟨due, ht, -⟩ <;> simp [ht] at hm

theorem Advance.first_attempt {s t : Session} (ha : Advance s t) {time : Nat}
    (h : s.attempts.getLast? = some time) : t.attempts.getLast? = some time := by
  rcases ha.attempts with he | ⟨he, -⟩
  · rwa [he]
  · cases hl : s.attempts with
    | nil => simp [hl] at h
    | cons a rest => rwa [he, hl, List.getLast?_cons_cons, ← hl]

/-- The first attempt stays the first one. -/
theorem after_first {s : Session} {time : Nat} (h : s.attempts.getLast? = some time)
    (schedule : List Moment) : (s.after schedule).attempts.getLast? = some time :=
  after_invariant (P := fun s => s.attempts.getLast? = some time) h
    (fun s o hs => by rwa [happen_attempts]) (fun _ _ ha hs => ha.first_attempt hs) schedule

/-- The first attempt was made at this time, or is due now, at this time. -/
def BeginsAt (s : Session) (time : Nat) : Prop :=
  s.attempts.getLast? = some time ∨
    (s.phase = .live ∧ s.task = .starting ∧ s.clock = time ∧ s.attempts = [])

theorem BeginsAt.advance {s t : Session} (ha : Advance s t) {time : Nat}
    (h : s.BeginsAt time) : t.BeginsAt time := by
  rcases h with first | ⟨live, task, clock, none⟩
  · exact .inl (ha.first_attempt first)
  · -- the turn of a task at its start is its first attempt
    refine .inl ?_
    rcases ha.attempts with he | ⟨he, -⟩
    · cases ha with
      | attempt =>
        have none := he.trans none
        simp [Session.attempts, Entry.attemptTime?] at none
      | ended _ dead => exact absurd live dead
      | _ => simp_all
    · rw [he, none, clock]
      rfl

/-- A session makes its first attempt when it is opened. -/
theorem step_start_attempts {s : Session} (hd : 0 < s.delay) (unopened : s.phase = .unopened)
    (attended : s.Attended) : (s.step .start).attempts.getLast? = some s.clock := by
  have start : s.happen .start = { s with phase := .live, task := .starting } :=
    if_pos unopened
  have begins : (s.happen .start).BeginsAt s.clock := by
    rw [start]
    exact .inr ⟨rfl, rfl, rfl, by simp [attempts, (attended.before unopened).2]⟩
  have idle : (s.happen .start).settle.IsIdle :=
    settle_isIdle ((happen_delay s .start).symm ▸ hd)
  have settled : (s.happen .start).settle.BeginsAt s.clock :=
    settleWithin_rule (P := (BeginsAt · s.clock)) (fun _ _ ha h => h.advance ha) _ begins
  refine settled.resolve_right ?_
  rintro ⟨-, task, -⟩
  cases isIdle_iff.mp idle <;> simp_all

/-! ### Runs -/

theorem mem_stimuli {o : Operation} (h : ∀ ms, o ≠ .wait ms) {os : List Operation} :
    o ∈ stimuli os ↔ o ∈ os := by
  induction os with
  | nil => rfl
  | cons p os ih =>
    cases p with
    | wait ms => simp [stimuli, ih, h ms]
    | _ => simp [stimuli, ih]

theorem happen_unopened {s : Session} (h : s.phase = .unopened) {o : Operation}
    (ho : o ≠ .start) : (s.happen o).phase = .unopened := by
  cases o with
  | start => exact absurd rfl ho
  | clearEvents => exact (clear_alike ..).phase.trans h
  | clearApprovals => exact (clear_alike ..).phase.trans h
  | close => show s.phase.close = _; rw [h]; rfl
  | leave => show s.phase.leave = _; rw [h]; rfl
  | _ => exact h

/-- A session is not opened by anything but its opening. -/
theorem run_unopened (c : Config) {os : List Operation} (h : .start ∉ os) :
    ((ofConfig c).run os).phase = .unopened := by
  obtain ⟨schedule, hrun, hos⟩ := plays_run (ofConfig c) os
  rw [hrun]
  refine after_rule (P := fun os s => .start ∉ os → s.phase = .unopened) (fun _ => rfl) ?_ ?_
    schedule ?_
  · intro os s o hs ho
    simp only [List.mem_append, List.mem_singleton, not_or] at ho
    exact happen_unopened (hs ho.1) (Ne.symm ho.2)
  · intro os s t ha hs ho
    exact ha.phase.trans (hs ho)
  · rwa [← mem_stimuli (by simp), hos, mem_stimuli (by simp)]

/-- The first attempt of a run is made when the session is opened. -/
theorem run_first_attempt (c : Config) (hd : 0 < c.reconnectDelay)
    {before : List Operation} (h : .start ∉ before) (later : List Operation) :
    ((ofConfig c).run (before ++ .start :: later)).attempts.getLast? =
      some ((ofConfig c).run before).clock := by
  have attended : ((ofConfig c).run before).Attended := by
    obtain ⟨schedule, hs⟩ := reachable_run c before
    exact hs ▸ after_attended c schedule
  have delay : 0 < ((ofConfig c).run before).delay := (run_delay ..).symm ▸ hd
  have first := step_start_attempts delay (run_unopened c h) attended
  rw [run_append]
  obtain ⟨schedule, hrun, -⟩ := plays_run (((ofConfig c).run before).step .start) later
  show ((((ofConfig c).run before).step .start).run later).attempts.getLast? = _
  rw [hrun]
  exact after_first first schedule

/-- How regular the attempts are that a session has made after the operations `os`. -/
structure Regular (c : Config) (os : List Operation) (s : Session) : Prop where
  /-- The first one was made when the session was opened. -/
  first : ∀ before later, os = before ++ .start :: later → .start ∉ before →
    s.attempts.getLast? = some ((ofConfig c).run before).clock
  /-- Between two attempts the session has told once that it is disconnected, and the
  second one was made a delay after that. -/
  between : ∀ (later between earlier : List Entry) (time time' : Nat),
    s.journal = later ++ ⟨time', .attempt⟩ :: (between ++ ⟨time, .attempt⟩ :: earlier) →
      (∀ e ∈ between, e.deed ≠ .attempt) →
        ∃ loss, between.filterMap Entry.lossTime? = [loss] ∧ time' = loss + c.reconnectDelay
  /-- The status told before an attempt was connecting. -/
  connecting : ∀ (later earlier : List Entry) (time : Nat),
    s.journal = later ++ ⟨time, .attempt⟩ :: earlier →
      (.connecting :: told earlier).getLast? = some .connecting
  /-- There was one attempt more than returns from disconnected to connecting. -/
  count : .start ∈ os → s.attempts.length = 1 + returns (.connecting :: s.statuses)

theorem Due.between {delay time time' : Nat} {between earlier : List Entry}
    (h : Due delay time' (between ++ ⟨time, .attempt⟩ :: earlier))
    (none : ∀ e ∈ between, e.deed ≠ .attempt) :
    ∃ loss, between.filterMap Entry.lossTime? = [loss] ∧ time' = loss + delay := by
  have quiet : between.filterMap Entry.attemptTime? = [] := by
    refine List.filterMap_eq_nil_iff.mpr fun e he => ?_
    obtain ⟨t, deed⟩ := e
    cases deed with
    | attempt => exact absurd rfl (none _ he)
    | _ => rfl
  rcases h.spaced with hn | ⟨loss, hl, htime⟩
  · simp [Entry.attemptTime?] at hn
  · rw [losses_append quiet, losses_attempt, List.append_nil] at hl
    exact ⟨loss, hl, htime⟩

theorem run_regular (c : Config) (hd : 0 < c.reconnectDelay) (os : List Operation) :
    Regular c os ((ofConfig c).run os) := by
  have timed := run_timed c hd os
  have delay : ((ofConfig c).run os).delay = c.reconnectDelay := run_delay ..
  have paced := timed.paced
  rw [delay] at paced
  refine ⟨?_, ?_, ?_, ?_⟩
  · rintro before later rfl h
    exact run_first_attempt c hd h later
  · intro later between earlier time time' hj none
    rw [hj] at paced
    exact paced.due.between none
  · intro later earlier time hj
    rw [hj] at paced
    exact paced.due.connecting
  · intro opened
    -- the session was opened, so that there is a first attempt
    obtain ⟨before, later, hos, h⟩ := List.eq_append_cons_of_mem opened
    refine timed.count.resolve_left fun none => ?_
    have first := run_first_attempt c hd h later
    rw [← hos, none] at first
    simp at first

/-- **One attempt after each loss, at a fixed interval.** Attempts are made only by
sessions that are live, have no link open and wait for no answer. After every run there is
one for the opening and one for each time that the session has told that it is
disconnected, a delay later, but for the last time if that is still to come. -/
theorem one_attempt_after_each_loss (c : Config) (hd : 0 < c.reconnectDelay) :
    (∀ s, Reachable c s → ∀ m, (s.next m).attempts = s.attempts ∨
      ((s.next m).attempts = s.clock :: s.attempts ∧ (s.next m).status = .connecting ∧
        s.Alone)) ∧
      ∀ os, Reachable c ((ofConfig c).run os) ∧ Regular c os ((ofConfig c).run os) :=
  ⟨fun _ h m => next_attempts h m, fun os => ⟨reachable_run c os, run_regular c hd os⟩⟩

/-- A wait that spans three pauses: after a refusal, and after a link that has failed. -/
theorem one_attempt_after_each_loss_long_wait :
    ∃ s : Session, s = (ofConfig sampleConfig).run
        [.wait 5, .planLink, .start, .wait 95, .failure 0, .wait 10000] ∧
      Regular sampleConfig
        [.wait 5, .planLink, .start, .wait 95, .failure 0, .wait 10000] s ∧
      s.attempts = [9100, 6100, 3100, 5] := by
  have h := one_attempt_after_each_loss sampleConfig (by decide)
  exact ⟨_, rfl, (h.2 _).2, by decide⟩

end PipelineWatch.Session
