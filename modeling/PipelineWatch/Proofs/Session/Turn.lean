import PipelineWatch.Session.Operation

/-!
What one turn of the task can do. `Advance` lists the turns with everything that
they change, and `turn_advances` says that there are no others, so that an
invariant of sessions is shown for six kinds of turns and for the operations.
`after_rule` carries it along a schedule.
-/
namespace PipelineWatch.Session

/-! ### Liveness -/

theorem Phase.isLive_iff {p : Phase} : p.isLive = true ↔ p = .live := by
  cases p <;> simp [Phase.isLive]

theorem whileLive_of_live {s : Session} (h : s.phase = .live) (f : Session → Session) :
    s.whileLive f = some (f s) := by
  simp [whileLive, Phase.isLive_iff.mpr h]

theorem whileLive_of_not_live {s : Session} (h : s.phase ≠ .live) (f : Session → Session) :
    s.whileLive f = none := by
  have hl : s.phase.isLive = false := by
    simpa [← Phase.isLive_iff] using h
  simp [whileLive, hl]

/-! ### What stays -/

/-- All that is seen of a session is the same in `t` as it was in `s`. -/
structure Unmoved (s t : Session) : Prop where
  status : t.status = s.status
  stores : t.stores = s.stores
  journal : t.journal = s.journal
  frameLimit : t.frameLimit = s.frameLimit

theorem Unmoved.refl (s : Session) : Unmoved s s :=
  ⟨rfl, rfl, rfl, rfl⟩

theorem Unmoved.trans {s t u : Session} (h : Unmoved s t) (h' : Unmoved t u) : Unmoved s u :=
  ⟨h'.status.trans h.status, h'.stores.trans h.stores, h'.journal.trans h.journal,
    h'.frameLimit.trans h.frameLimit⟩

/-- Of all operations, only the two that take something out move what is seen. -/
theorem happen_unmoved (s : Session) {o : Operation} (he : o ≠ .clearEvents)
    (ha : o ≠ .clearApprovals) : Unmoved s (s.happen o) := by
  cases o with
  | clearEvents => exact absurd rfl he
  | clearApprovals => exact absurd rfl ha
  | start =>
    show Unmoved s s.start
    unfold start
    split <;> exact ⟨rfl, rfl, rfl, rfl⟩
  | _ => exact ⟨rfl, rfl, rfl, rfl⟩

theorem clear_of_live {s : Session} (h : s.phase = .live) (clean : Stores → Stores)
    (u : Update) :
    s.clear clean u =
      { s with stores := clean s.stores, journal := ⟨s.clock, .tell u⟩ :: s.journal } := by
  rw [clear, whileLive_of_live h]
  rfl

theorem clear_of_not_live {s : Session} (h : s.phase ≠ .live) (clean : Stores → Stores)
    (u : Update) : s.clear clean u = s := by
  rw [clear, whileLive_of_not_live h]
  rfl

/-- The task of `t` and its network are those of `s`. -/
structure Alike (s t : Session) : Prop where
  delay : t.delay = s.delay
  links : t.links = s.links
  plan : t.plan = s.plan
  phase : t.phase = s.phase
  task : t.task = s.task

/-- The task has no part in what is taken out of the stores. -/
theorem clear_alike (s : Session) (clean : Stores → Stores) (u : Update) :
    Alike s (s.clear clean u) := by
  unfold clear whileLive
  split <;> exact ⟨rfl, rfl, rfl, rfl, rfl⟩

theorem clear_kept (s : Session) (clean : Stores → Stores) (u : Update) :
    (s.clear clean u).status = s.status ∧ (s.clear clean u).clock = s.clock := by
  unfold clear whileLive
  split <;> exact ⟨rfl, rfl⟩

/-! ### What is entered into the journal -/

theorem clear_journal (s : Session) (clean : Stores → Stores) (u : Update) :
    (s.clear clean u).journal = s.journal ∨
      (s.clear clean u).journal = ⟨s.clock, .tell u⟩ :: s.journal := by
  by_cases live : s.phase = .live
  · rw [clear_of_live live]
    exact .inr rfl
  · rw [clear_of_not_live live]
    exact .inl rfl

/-- An operation enters nothing, unless it takes something out of the stores. -/
theorem happen_journal (s : Session) (o : Operation) :
    (s.happen o).journal = s.journal ∨
      ∃ u, (u = .eventsCleared ∨ u = .approvalsCleared) ∧
        (s.happen o).journal = ⟨s.clock, .tell u⟩ :: s.journal := by
  cases o with
  | clearEvents => exact (clear_journal ..).imp_right fun hj => ⟨_, .inl rfl, hj⟩
  | clearApprovals => exact (clear_journal ..).imp_right fun hj => ⟨_, .inr rfl, hj⟩
  | _ => exact .inl (happen_unmoved s (by simp) (by simp)).journal

/-- What is entered when the status is put. -/
def herald (s : Session) (status : Status) : List Entry :=
  if s.status = status then [] else [⟨s.clock, .tell (.status status)⟩]

/-- What is entered when a frame is taken in, newest first. -/
def reception (s : Session) (n : Nat) (frame : List UInt8) : List Entry :=
  let outcome := (s.stores.dispatch s.frameLimit frame).1
  (if outcome.changed then [⟨s.clock, .tell (.dispatched outcome)⟩] else []) ++
    [⟨s.clock, .frame n frame⟩]

theorem setStatus_eq (s : Session) (status : Status) :
    s.setStatus status =
      { s with status, journal := s.herald status ++ s.journal } := by
  unfold setStatus herald
  split
  · rename_i h
    -- the status is put although it is the same, which changes nothing
    subst h
    rfl
  · rfl

theorem deliver_eq (s : Session) (n : Nat) (frame : List UInt8) :
    s.deliver n frame =
      { s with
        stores := (s.stores.dispatch s.frameLimit frame).2
        journal := s.reception n frame ++ s.journal } := by
  simp only [deliver, reception, record]
  split <;> simp_all [tell, record]

/-! ### Turns -/

/-- One turn of the task, from `s` to a session that stands for all it changes. -/
inductive Advance (s : Session) : Session → Prop where
  /-- An attempt, at the start or when a pause is over. -/
  | attempt (live : s.phase = .live)
      (awake : s.task = .starting ∨ ∃ due, s.task = .pausing due ∧ due ≤ s.clock) :
      Advance s
        { s with
          status := .connecting
          plan := s.plan.tail
          task := .attempting (s.plan.headD .fail)
          journal := ⟨s.clock, .attempt⟩ :: (s.herald .connecting ++ s.journal) }
  /-- The refusal of an attempt. -/
  | refused (live : s.phase = .live) (met : s.task = .attempting .fail) :
      Advance s
        { s with
          status := .disconnected
          task := .pausing (s.clock + s.delay)
          journal := s.herald .disconnected ++ s.journal }
  /-- The link that an attempt has met. -/
  | connected (n : Nat) (live : s.phase = .live) (met : s.task = .attempting (.link n)) :
      Advance s
        { s with
          status := .connected
          task := .reading n
          journal := ⟨s.clock, .connect n⟩ :: (s.herald .connected ++ s.journal) }
  /-- A frame. -/
  | frame (n : Nat) (link : Link) (bytes : List UInt8) (waiting : List Arrival)
      (live : s.phase = .live) (reading : s.task = .reading n)
      (found : s.links[n]? = some link) (first : link.waiting = .frame bytes :: waiting) :
      Advance s
        { s with
          links := s.links.modify n fun link => { link with waiting }
          stores := (s.stores.dispatch s.frameLimit bytes).2
          journal := s.reception n bytes ++ s.journal }
  /-- A link that has failed or is at its end. -/
  | lost (n : Nat) (link : Link) (live : s.phase = .live) (reading : s.task = .reading n)
      (found : s.links[n]? = some link)
      (spent : link.waiting.head? = some .failure ∨ link.waiting = [] ∧ link.ended = true) :
      Advance s
        { s with
          links := s.links.modify n fun link => { link with released := true, waiting := [] }
          status := .disconnected
          task := .pausing (s.clock + s.delay)
          journal := s.herald .disconnected ++ s.journal }
  /-- The end of the task, in a session that is not live. -/
  | ended (links : List Link) (dead : s.phase ≠ .live)
      (busy : s.task ≠ .absent ∧ s.task ≠ .finished)
      (same : links.length = s.links.length) :
      Advance s { s with links, task := .finished }

theorem Advance.phase {s t : Session} (h : Advance s t) : t.phase = s.phase := by
  cases h <;> rfl

theorem Advance.clock {s t : Session} (h : Advance s t) : t.clock = s.clock := by
  cases h <;> rfl

theorem attempt_advances {s : Session}
    (awake : s.task = .starting ∨ ∃ due, s.task = .pausing due ∧ due ≤ s.clock) :
    Advance s s.attempt := by
  unfold attempt
  by_cases live : s.phase = .live
  · rw [whileLive_of_live live, setStatus_eq]
    have h := Advance.attempt live awake
    cases hp : s.plan <;> simpa [record, hp] using h
  · rw [whileLive_of_not_live live]
    have busy : s.task ≠ .absent ∧ s.task ≠ .finished := by
      rcases awake with h | ⟨due, h, -⟩ <;> simp [h]
    exact .ended s.links live busy rfl

theorem answer_advances {s t : Session} {meets : Attempt} (met : s.task = .attempting meets)
    (h : s.answer meets = some t) : Advance s t := by
  have busy : s.task ≠ .absent ∧ s.task ≠ .finished := by simp [met]
  cases meets with
  | hang => simp [answer] at h
  | fail =>
    obtain rfl : s.pause = t := by simpa [answer] using h
    unfold pause
    by_cases live : s.phase = .live
    · rw [whileLive_of_live live, setStatus_eq]
      exact .refused live met
    · rw [whileLive_of_not_live live]
      exact .ended s.links live busy rfl
  | link n =>
    obtain rfl : s.connect n = t := by simpa [answer] using h
    unfold connect
    by_cases live : s.phase = .live
    · rw [whileLive_of_live live, setStatus_eq]
      exact .connected n live met
    · rw [whileLive_of_not_live live]
      exact .ended _ live busy (List.length_modify ..)

theorem lose_advances {s : Session} {n : Nat} {link : Link} (reading : s.task = .reading n)
    (found : s.links[n]? = some link)
    (spent : link.waiting.head? = some .failure ∨ link.waiting = [] ∧ link.ended = true) :
    Advance s (s.release n).pause := by
  unfold pause
  by_cases live : s.phase = .live
  · rw [whileLive_of_live (by exact live), setStatus_eq]
    exact .lost n link live reading found spent
  · rw [whileLive_of_not_live (by exact live)]
    exact .ended _ live (by simp [reading]) (List.length_modify ..)

theorem read_advances {s t : Session} {n : Nat} (reading : s.task = .reading n)
    (h : s.read n = some t) : Advance s t := by
  unfold read at h
  cases found : s.links[n]? with
  | none => simp [found] at h
  | some link =>
    simp only [found] at h
    cases hw : link.waiting with
    | nil =>
      by_cases he : link.ended = true
      · obtain rfl : (s.release n).pause = t := by simpa [hw, he] using h
        exact lose_advances reading found (.inr ⟨hw, he⟩)
      · simp [hw, he] at h
    | cons first waiting =>
      cases first with
      | failure =>
        obtain rfl : (s.release n).pause = t := by simpa [hw] using h
        exact lose_advances reading found (.inl (by simp [hw]))
      | frame bytes =>
        simp only [hw, Option.some.injEq] at h
        subst h
        by_cases live : s.phase = .live
        · rw [whileLive_of_live (by exact live), Option.getD_some, deliver_eq]
          exact .frame n link bytes waiting live reading found hw
        · rw [whileLive_of_not_live (by exact live), Option.getD_none]
          exact .ended _ live (by simp [reading]) (by simp only [modifyLink, List.length_modify])

theorem quit_advances {s t : Session} (dead : s.phase ≠ .live) (h : s.quit = some t) :
    Advance s t := by
  unfold quit at h
  cases ht : s.task with
  | absent => simp [ht] at h
  | finished => simp [ht] at h
  | reading n =>
    obtain rfl : s.hangUp n = t := by simpa [ht] using h
    exact .ended _ dead (by simp [ht]) (List.length_modify ..)
  | _ =>
    obtain rfl : s.finish = t := by simpa [ht] using h
    exact .ended s.links dead (by simp [ht]) rfl

theorem proceed_advances {s t : Session} (h : s.proceed = some t) : Advance s t := by
  unfold proceed at h
  cases ht : s.task with
  | absent => simp [ht] at h
  | finished => simp [ht] at h
  | starting =>
    obtain rfl : s.attempt = t := by simpa [ht] using h
    exact attempt_advances (.inl ht)
  | attempting meets => exact answer_advances ht (by simpa [ht] using h)
  | reading n => exact read_advances ht (by simpa [ht] using h)
  | pausing due =>
    obtain ⟨hdue, rfl⟩ : due ≤ s.clock ∧ s.attempt = t := by simpa [ht] using h
    exact attempt_advances (.inr ⟨due, ht, hdue⟩)

theorem turn_of_live {s : Session} (live : s.phase = .live) (heeds : Bool) :
    s.turn heeds = s.proceed := by
  simp [turn, Phase.isLive_iff.mpr live]

theorem turn_of_not_live {s : Session} (dead : s.phase ≠ .live) (heeds : Bool) :
    s.turn heeds = if heeds then s.quit else s.proceed.or s.quit := by
  have hl : s.phase.isLive = false := by
    simpa [← Phase.isLive_iff] using dead
  simp [turn, hl]

/-- Every turn of the task is one of those listed. -/
theorem turn_advances {s t : Session} {heeds : Bool} (h : s.turn heeds = some t) :
    Advance s t := by
  by_cases live : s.phase = .live
  · rw [turn_of_live live] at h
    exact proceed_advances h
  · rw [turn_of_not_live live] at h
    cases heeds with
    | true => exact quit_advances live h
    | false =>
      rcases Option.or_eq_some_iff.mp h with hp | ⟨-, hq⟩
      · exact proceed_advances hp
      · exact quit_advances live hq

/-! ### Schedules -/

/-- The operation of a moment, if it is one. -/
def Moment.operation? : Moment → Option Operation
  | .operation o => some o
  | .turn _ => none

/-- The operations of a schedule. -/
def operations (schedule : List Moment) : List Operation :=
  schedule.filterMap Moment.operation?

theorem after_append (s : Session) (ms later : List Moment) :
    s.after (ms ++ later) = (s.after ms).after later :=
  List.foldl_append

theorem next_turn (s : Session) (heeds : Bool) :
    s.next (.turn heeds) = s ∨ Advance s (s.next (.turn heeds)) := by
  simp only [next]
  cases h : s.turn heeds with
  | none => exact .inl rfl
  | some t => exact .inr (turn_advances h)

theorem after_rule_from {P : List Operation → Session → Prop}
    (operation : ∀ os s o, P os s → P (os ++ [o]) (s.happen o))
    (turn : ∀ os s t, Advance s t → P os s → P os t)
    (schedule : List Moment) (os : List Operation) (s : Session) (h : P os s) :
    P (os ++ operations schedule) (s.after schedule) := by
  induction schedule generalizing os s with
  | nil => simpa [operations, after] using h
  | cons m schedule ih =>
    cases m with
    | operation o =>
      have ho := ih _ _ (operation os s o h)
      simpa [operations, Moment.operation?, after, next] using ho
    | turn heeds =>
      have ht : P os (s.next (.turn heeds)) := by
        rcases next_turn s heeds with he | ha
        · rwa [he]
        · exact turn os s _ ha h
      exact ih _ _ ht

/-- What holds of a session and of the operations so far, and is kept by each
operation and by each turn, holds after every schedule. -/
theorem after_rule {P : List Operation → Session → Prop} {s : Session} (start : P [] s)
    (operation : ∀ os s o, P os s → P (os ++ [o]) (s.happen o))
    (turn : ∀ os s t, Advance s t → P os s → P os t) (schedule : List Moment) :
    P (operations schedule) (s.after schedule) :=
  after_rule_from operation turn schedule [] s start

/-- An invariant of sessions alone. -/
theorem after_invariant {P : Session → Prop} {s : Session} (start : P s)
    (operation : ∀ s o, P s → P (s.happen o)) (turn : ∀ s t, Advance s t → P s → P t)
    (schedule : List Moment) : P (s.after schedule) :=
  after_rule (P := fun _ s => P s) start (fun _ => operation) (fun _ => turn) schedule

/-! ### Before the opening -/

/-- There is a task from the opening on, and nothing is done before. -/
structure Attended (s : Session) : Prop where
  before : s.phase = .unopened → s.task = .absent ∧ s.journal = []
  since : s.phase ≠ .unopened → s.task ≠ .absent

theorem Attended.clear {s : Session} (h : s.Attended) (clean : Stores → Stores) (u : Update) :
    (s.clear clean u).Attended := by
  by_cases live : s.phase = .live
  · rw [clear_of_live live]
    exact ⟨fun hu => by simp [live] at hu, h.since⟩
  · rwa [clear_of_not_live live]

theorem Attended.happen {s : Session} (h : s.Attended) (o : Operation) :
    (s.happen o).Attended := by
  cases o with
  | start =>
    show s.start.Attended
    unfold Session.start
    split
    · exact ⟨by simp, by simp⟩
    · exact h
  | close =>
    have hp : s.phase.close = .unopened ↔ s.phase = .unopened := by
      cases s.phase <;> simp [Phase.close]
    exact ⟨fun hu => h.before (hp.mp hu), fun hu => h.since (fun he => hu (hp.mpr he))⟩
  | leave =>
    have hp : s.phase.leave = .unopened ↔ s.phase = .unopened := by
      cases s.phase <;> simp [Phase.leave]
    exact ⟨fun hu => h.before (hp.mp hu), fun hu => h.since (fun he => hu (hp.mpr he))⟩
  | clearEvents => exact h.clear ..
  | clearApprovals => exact h.clear ..
  | _ => exact ⟨h.before, h.since⟩

/-- Only a session that was opened makes a turn. -/
theorem Attended.opened {s t : Session} (ha : Advance s t) (h : s.Attended) :
    s.phase ≠ .unopened := by
  intro hu
  cases ha with
  | ended _ _ busy => exact busy.1 (h.before hu).1
  | _ => simp_all

theorem Attended.advance {s t : Session} (ha : Advance s t) (h : s.Attended) : t.Attended := by
  refine ⟨fun hu => absurd (ha.phase ▸ hu) (h.opened ha), fun _ => ?_⟩
  cases ha with
  | frame n link bytes waiting live reading => simp [reading]
  | _ => simp

theorem Attended.after {s : Session} (h : s.Attended) (schedule : List Moment) :
    (s.after schedule).Attended :=
  after_invariant h (fun _ o hs => hs.happen o) (fun _ _ ha hs => hs.advance ha) schedule

theorem after_attended (c : Config) (schedule : List Moment) :
    ((ofConfig c).after schedule).Attended :=
  Attended.after ⟨fun _ => ⟨rfl, rfl⟩, fun h => absurd rfl h⟩ schedule

/-! ### Sample settings -/

/-- The settings where no variable is set. -/
def sampleConfig : Config where
  endpoint := ⟨['w', 's'], some ([], .ipv4 0x7f000001, some 8000), ['/', 'w', 's'], none, none⟩

example : Config.ofLookup (fun _ => none) = .ok sampleConfig := rfl

end PipelineWatch.Session
