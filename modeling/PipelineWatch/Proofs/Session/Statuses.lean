import Mathlib.Data.List.Chain
import PipelineWatch.Proofs.Session.Open

/-!
The statuses that followers are told. They begin with that of a new session, each leads
to the next one, and the last is the status of the session. In a live session the status
is that of what its task waits for, so that an idle one is connected while it reads a
link, disconnected while it pauses, and connecting while an attempt is not answered.
-/
namespace PipelineWatch

/-- The changes of status that there are. -/
inductive Status.Leads : Status → Status → Prop where
  /-- An attempt has met a link. -/
  | opened : Leads .connecting .connected
  /-- An attempt was refused. -/
  | refused : Leads .connecting .disconnected
  /-- A link has failed or is at its end. -/
  | lost : Leads .connected .disconnected
  /-- The next attempt is due. -/
  | again : Leads .disconnected .connecting

theorem Status.Leads.ne {a b : Status} (h : a.Leads b) : a ≠ b := by
  cases h <;> simp

namespace Session

/-- The status that is told. -/
def Update.status? : Update → Option Status
  | .status told => some told
  | _ => none

/-- The statuses that followers were told, in their order. -/
def statuses (s : Session) : List Status :=
  (s.sent.filterMap Update.status?).reverse

/-- The status of a live session whose task waits for this. -/
def Task.shows : Task → Option Status
  | .absent => none
  | .starting => some .connecting
  | .attempting _ => some .connecting
  | .reading _ => some .connected
  | .pausing _ => some .disconnected
  | .finished => none

/-! ### What is told -/

/-- The statuses that are told by these entries, in their order. -/
def told (entries : List Entry) : List Status :=
  ((entries.filterMap Entry.update?).filterMap Update.status?).reverse

theorem statuses_of_journal {s t : Session} {e : List Entry}
    (hj : t.journal = e ++ s.journal) : t.statuses = s.statuses ++ told e := by
  simp [statuses, sent, told, hj]

theorem told_herald (s : Session) (status : Status) :
    told (s.herald status) = if s.status = status then [] else [status] := by
  unfold herald
  split <;> rfl

theorem told_reception (s : Session) (n : Nat) (frame : List UInt8) :
    told (s.reception n frame) = [] := by
  simp only [reception]
  split <;> rfl

/-- What is told at a turn that puts the status. -/
theorem statuses_of_put {s t : Session} {e : List Entry} {status : Status}
    (hj : t.journal = e ++ s.journal) (he : told e = told (s.herald status)) :
    t.statuses = s.statuses ++ if s.status = status then [] else [status] := by
  rw [statuses_of_journal hj, he, told_herald]

/-! ### The path -/

/-- The statuses told so far, and the status now. -/
structure Announced (s : Session) : Prop where
  path : (.connecting :: s.statuses).IsChain Status.Leads
  last : (.connecting :: s.statuses).getLast? = some s.status
  shown : s.phase = .live → s.task.shows = some s.status

/-- Another status is told if it is one that the status leads to. -/
theorem Announced.put {s t : Session} (h : s.Announced) {status : Status}
    (told : t.statuses = s.statuses ++ if s.status = status then [] else [status])
    (leads : s.status = status ∨ s.status.Leads status) (now : t.status = status)
    (shown : t.phase = .live → t.task.shows = some status) : t.Announced := by
  by_cases same : s.status = status
  · rw [if_pos same, List.append_nil] at told
    refine ⟨told ▸ h.path, ?_, fun live => now ▸ shown live⟩
    rw [told, h.last, same, now]
  · rw [if_neg same] at told
    refine ⟨?_, ?_, fun live => now ▸ shown live⟩
    · rw [told, ← List.cons_append]
      refine List.isChain_append.mpr ⟨h.path, .singleton _, ?_⟩
      intro a ha b hb
      rw [h.last, Option.mem_some_iff] at ha
      rw [List.head?_cons, Option.mem_some_iff] at hb
      subst ha hb
      exact leads.resolve_left same
    · rw [told, ← List.cons_append, List.getLast?_concat, now]

theorem Announced.keep {s t : Session} (h : s.Announced) (told : t.statuses = s.statuses)
    (now : t.status = s.status) (shown : t.phase = .live → s.phase = .live ∧ t.task = s.task) :
    t.Announced := by
  refine ⟨told ▸ h.path, by rw [told, h.last, now], fun live => ?_⟩
  obtain ⟨was, task⟩ := shown live
  rw [now, task, h.shown was]

/-- The status of a live session is told from its task. -/
theorem Announced.status_eq {s : Session} (h : s.Announced) (live : s.phase = .live)
    (status : Status) (shows : s.task.shows = some status) : s.status = status :=
  Option.some.inj ((h.shown live).symm.trans shows)

theorem Announced.advance {s t : Session} (ha : Advance s t) (h : s.Announced) :
    t.Announced := by
  cases ha with
  | attempt live awake =>
    refine h.put (statuses_of_put (e := ⟨s.clock, .attempt⟩ :: s.herald .connecting) rfl rfl) ?_
      rfl fun _ => rfl
    rcases awake with hs | ⟨due, hp, -⟩
    · exact .inl (h.status_eq live _ (by rw [hs]; rfl))
    · rw [h.status_eq live .disconnected (by rw [hp]; rfl)]
      exact .inr .again
  | refused live met =>
    refine h.put (statuses_of_put (e := s.herald .disconnected) rfl rfl) (.inr ?_) rfl
      fun _ => rfl
    rw [h.status_eq live .connecting (by rw [met]; rfl)]
    exact .refused
  | connected n live met =>
    refine h.put (statuses_of_put (e := ⟨s.clock, .connect n⟩ :: s.herald .connected) rfl rfl)
      (.inr ?_) rfl fun _ => rfl
    rw [h.status_eq live .connecting (by rw [met]; rfl)]
    exact .opened
  | frame n link bytes waiting live =>
    refine h.keep ?_ rfl fun _ => ⟨live, rfl⟩
    rw [statuses_of_journal (s := s) (e := s.reception n bytes) rfl, told_reception,
      List.append_nil]
  | lost n link live reading =>
    refine h.put (statuses_of_put (e := s.herald .disconnected) rfl rfl) (.inr ?_) rfl
      fun _ => rfl
    rw [h.status_eq live .connected (by rw [reading]; rfl)]
    exact .lost
  | ended links dead => exact h.keep rfl rfl fun live => absurd live dead

theorem happen_status (s : Session) (o : Operation) : (s.happen o).status = s.status := by
  cases o with
  | start =>
    show s.start.status = s.status
    unfold start
    split <;> rfl
  | clearEvents => exact (clear_kept ..).1
  | clearApprovals => exact (clear_kept ..).1
  | _ => rfl

theorem happen_statuses (s : Session) (o : Operation) :
    (s.happen o).statuses = s.statuses := by
  rcases happen_journal s o with hj | ⟨u, hu, hj⟩
  · rw [statuses, sent, hj]
    rfl
  · rw [statuses_of_journal (e := [_]) hj]
    rcases hu with rfl | rfl <;> exact List.append_nil _

theorem Announced.happen {s : Session} (h : s.Announced) (attended : s.Attended)
    (o : Operation) : (s.happen o).Announced := by
  have told := happen_statuses s o
  have now := happen_status s o
  refine ⟨told ▸ h.path, by rw [told, h.last, now], fun live => ?_⟩
  rw [now]
  rcases happen_live live with ⟨was, task⟩ | ⟨unopened, task⟩
  · rw [task, h.shown was]
  · -- nothing was told before the opening
    have last := h.last
    simp only [statuses, sent, (attended.before unopened).2] at last
    rw [task, ← last]
    rfl

theorem after_announced (c : Config) (schedule : List Moment) :
    ((ofConfig c).after schedule).Announced := by
  have start : (ofConfig c).Attended ∧ (ofConfig c).Announced :=
    ⟨after_attended c [], .singleton _, rfl, fun live => by simp [ofConfig, idle] at live⟩
  exact (after_invariant (P := fun s => s.Attended ∧ s.Announced) start
    (fun _ o h => ⟨h.1.happen o, h.2.happen h.1 o⟩)
    (fun _ _ ha h => ⟨h.1.advance ha, h.2.advance ha⟩) schedule).2

/-! ### Idle sessions -/

/-- How faithful the status is: to what was told, and to the links and the task of a
session that is live and idle. -/
structure Faithful (s : Session) : Prop where
  /-- Each status that was told leads to the next one, from that of a new session on. -/
  path : (.connecting :: s.statuses).IsChain Status.Leads
  /-- None is told twice in a row. -/
  changes : (.connecting :: s.statuses).IsChain (· ≠ ·)
  /-- The last one is the status of the session. -/
  last : (.connecting :: s.statuses).getLast? = some s.status
  /-- Connected: one link is open, and it is being read. -/
  connected : s.phase = .live → s.IsIdle →
    (s.status = .connected ↔ ∃ n, s.task = .reading n ∧ ∀ m, s.IsOpen m ↔ m = n)
  /-- Disconnected: no link is open, no attempt is made, and the time of the next one is
  still to come. -/
  disconnected : s.phase = .live → s.IsIdle →
    (s.status = .disconnected ↔ (∀ n, ¬ s.IsOpen n) ∧ (∀ meets, s.task ≠ .attempting meets) ∧
      ∃ due, s.task = .pausing due ∧ s.clock < due)
  /-- Connecting: an attempt is not answered yet, and no link is open. -/
  connecting : s.phase = .live → s.IsIdle →
    (s.status = .connecting ↔ (∃ meets, s.task = .attempting meets) ∧ ∀ n, ¬ s.IsOpen n)

/-- A live session that is idle waits for an answer, for its link or for the clock. -/
theorem Announced.waits {s : Session} (h : s.Announced) (live : s.phase = .live)
    (idle : s.IsIdle) :
    (s.status = .connecting ∧ ∃ meets, s.task = .attempting meets) ∨
      (s.status = .connected ∧ ∃ n, s.task = .reading n) ∨
        (s.status = .disconnected ∧ ∃ due, s.task = .pausing due ∧ s.clock < due) := by
  have shown := h.shown live
  cases isIdle_iff.mp idle with
  | unopened task => simp [task, Task.shows] at shown
  | finished task => simp [task, Task.shows] at shown
  | hanging _ task => exact .inl ⟨h.status_eq live _ (by rw [task]; rfl), _, task⟩
  | reading n _ task => exact .inr (.inl ⟨h.status_eq live _ (by rw [task]; rfl), n, task⟩)
  | pausing due _ task early =>
    exact .inr (.inr ⟨h.status_eq live _ (by rw [task]; rfl), due, task, early⟩)

theorem faithful_of_reachable {c : Config} {s : Session} (h : Reachable c s) :
    s.Faithful := by
  have announced : s.Announced := by
    obtain ⟨schedule, rfl⟩ := h
    exact after_announced c schedule
  have isOpen : s.phase = .live → ∀ n, s.IsOpen n ↔ s.task = .reading n :=
    fun live _ => isOpen_iff_reading h live
  refine ⟨announced.path, announced.path.imp fun _ _ l => l.ne, announced.last,
    fun live idle => ?_, fun live idle => ?_, fun live idle => ?_⟩
  · rcases announced.waits live idle with
      ⟨status, meets, task⟩ | ⟨status, n, task⟩ | ⟨status, due, task, -⟩
    · simp [status, task]
    · refine iff_of_true status ⟨n, task, fun m => ?_⟩
      rw [isOpen live, task, Task.reading.injEq, eq_comm]
    · simp [status, task]
  · rcases announced.waits live idle with
      ⟨status, meets, task⟩ | ⟨status, n, task⟩ | ⟨status, due, task, early⟩
    · simp [status, task]
    · simp [status, task]
    · exact iff_of_true status ⟨by simp [isOpen live, task], by simp [task], due, task, early⟩
  · rcases announced.waits live idle with
      ⟨status, meets, task⟩ | ⟨status, n, task⟩ | ⟨status, due, task, -⟩
    · exact iff_of_true status ⟨⟨meets, task⟩, by simp [isOpen live, task]⟩
    · simp [status, task]
    · simp [status, task]

/-- **The status is faithful**, after every schedule and after every run. The session is
idle after each run. -/
theorem status_is_faithful (c : Config) (hd : 0 < c.reconnectDelay) :
    (∀ schedule, ((ofConfig c).after schedule).Faithful) ∧
      ∀ os, ((ofConfig c).run os).IsIdle ∧ ((ofConfig c).run os).Faithful := by
  refine ⟨fun schedule => faithful_of_reachable ⟨schedule, rfl⟩, fun os => ⟨?_, ?_⟩⟩
  · exact run_isIdle (s := ofConfig c) hd rfl os
  · exact faithful_of_reachable (reachable_run c os)

/-- An attempt that is refused, and a link that ends after it was met by the next one. -/
theorem status_is_faithful_refused :
    ∃ s : Session, s = (ofConfig sampleConfig).run
        [.planFail, .planLink, .start, .wait 3000, .endLink 0] ∧
      s.IsIdle ∧ s.Faithful ∧
        s.statuses = [.disconnected, .connecting, .connected, .disconnected] := by
  have h := status_is_faithful sampleConfig (by decide)
  exact ⟨_, rfl, (h.2 _).1, (h.2 _).2, by decide⟩

end Session

end PipelineWatch
