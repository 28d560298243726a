import PipelineWatch.Proofs.Session.Delivery
import PipelineWatch.Proofs.Session.Run

/-!
A session as a plain fold. What its stores take in is a list of frames and of
clearings, and the stores are the fold of what each of these does to empty stores.
The frames are those of the links that were connected, one link after the other.
-/
namespace PipelineWatch

namespace Session

/-- Something that the stores take in. -/
inductive Intake where
  | frame (link : Nat) (bytes : List UInt8)
  | clearEvents
  | clearApprovals
deriving DecidableEq, Repr

/-- The frame that is taken in, with its link. -/
def Intake.frame? : Intake → Option (Nat × List UInt8)
  | .frame link bytes => some (link, bytes)
  | _ => none

end Session

/-- The stores after something was taken in. -/
def Stores.takeIn (limit : Nat) (s : Stores) : Session.Intake → Stores
  | .frame _ bytes => (s.dispatch limit bytes).2
  | .clearEvents => s.clearEvents
  | .clearApprovals => s.clearApprovals

namespace Session

/-- What the stores take in at a moment: the frames that are delivered at a turn,
and a clearing if the session is live. -/
def takes (s : Session) : Moment → List Intake
  | .turn heeds =>
    ((s.next (.turn heeds)).taken.drop s.taken.length).map fun f => .frame f.1 f.2
  | .operation .clearEvents => if s.phase = .live then [.clearEvents] else []
  | .operation .clearApprovals => if s.phase = .live then [.clearApprovals] else []
  | .operation _ => []

/-- What the stores take in along a schedule. -/
def intake (s : Session) : List Moment → List Intake
  | [] => []
  | m :: schedule => s.takes m ++ (s.next m).intake schedule

/-- The frames that were delivered of link `n`. -/
def heard (s : Session) (n : Nat) : List (List UInt8) :=
  framesOf n s.taken

/-! ### One moment -/

/-- What a moment leaves of a session that has taken in `list`. -/
structure TakesIn (s : Session) (list : List Intake) (t : Session) : Prop where
  stores : t.stores = list.foldl (Stores.takeIn s.frameLimit) s.stores
  taken : t.taken = s.taken ++ list.filterMap Intake.frame?
  frameLimit : t.frameLimit = s.frameLimit

theorem TakesIn.of_unmoved {s t : Session} (h : Unmoved s t) : s.TakesIn [] t where
  stores := h.stores
  taken := by simp [Session.taken, h.journal]
  frameLimit := h.frameLimit

/-- A turn delivers a frame or nothing. -/
theorem Advance.takesIn {s t : Session} (h : Advance s t) :
    s.TakesIn [] t ∨ ∃ n bytes, s.TakesIn [.frame n bytes] t := by
  have silent : ∀ {t : Session}, t.stores = s.stores → t.taken = s.taken →
      t.frameLimit = s.frameLimit → s.TakesIn [] t := fun hs ht hl =>
    ⟨hs, ht.trans (List.append_nil _).symm, hl⟩
  cases h with
  | attempt =>
    have hq := (herald_quiet s .connecting).1
    exact .inl (silent rfl
      (taken_of_journal (e := ⟨s.clock, .attempt⟩ :: s.herald .connecting) rfl hq) rfl)
  | refused => exact .inl (silent rfl (taken_of_journal rfl (herald_quiet s _).1) rfl)
  | connected n =>
    have hq := (herald_quiet s .connected).1
    exact .inl (silent rfl
      (taken_of_journal (e := ⟨s.clock, .connect n⟩ :: s.herald .connected) rfl hq) rfl)
  | frame n link bytes =>
    have hf : (s.reception n bytes).filterMap Entry.frame? = [(n, bytes)] :=
      filterMap_reception _ (fun _ _ => rfl) s n bytes
    refine .inr ⟨n, bytes, rfl, ?_, rfl⟩
    simp [Session.taken, hf, Intake.frame?]
  | lost => exact .inl (silent rfl (taken_of_journal rfl (herald_quiet s _).1) rfl)
  | ended => exact .inl (silent rfl rfl rfl)

theorem takesIn_clear (s : Session) (clean : Stores → Stores) (u : Update) (i : Intake)
    (hc : ∀ limit stores, Stores.takeIn limit stores i = clean stores) (hi : i.frame? = none) :
    s.TakesIn (if s.phase = .live then [i] else []) (s.clear clean u) := by
  by_cases live : s.phase = .live
  · rw [if_pos live, clear_of_live live]
    refine ⟨(hc _ _).symm, ?_, rfl⟩
    have ht : [i].filterMap Intake.frame? = [] := by simp [hi]
    rw [ht, List.append_nil]
    rfl
  · rw [if_neg live, clear_of_not_live live]
    exact .of_unmoved (.refl s)

/-- The stores take in at a moment what they are said to. -/
theorem takesIn_next (s : Session) (m : Moment) : s.TakesIn (s.takes m) (s.next m) := by
  cases m with
  | turn heeds =>
    -- `takes` looks at the frames that the turn adds, so these have to be the list
    have key : ∀ list, s.TakesIn list (s.next (.turn heeds)) →
        (list.filterMap Intake.frame?).map (fun f => Intake.frame f.1 f.2) = list →
        s.TakesIn (s.takes (.turn heeds)) (s.next (.turn heeds)) := by
      intro list h hl
      have ht : s.takes (.turn heeds) = list := by
        rw [takes, h.taken, List.drop_left, hl]
      rwa [ht]
    rcases next_turn s heeds with he | ha
    · refine key [] ?_ rfl
      rw [he]
      exact .of_unmoved (.refl s)
    · rcases ha.takesIn with h | ⟨n, bytes, h⟩
      · exact key [] h rfl
      · exact key [.frame n bytes] h rfl
  | operation o =>
    have hu := happen_unmoved s (o := o)
    cases o with
    | clearEvents => exact takesIn_clear s _ _ .clearEvents (fun _ _ => rfl) rfl
    | clearApprovals => exact takesIn_clear s _ _ .clearApprovals (fun _ _ => rfl) rfl
    | _ => exact .of_unmoved (hu (by simp) (by simp))

/-! ### Schedules -/

theorem intake_append (s : Session) (before later : List Moment) :
    s.intake (before ++ later) = s.intake before ++ (s.after before).intake later := by
  induction before generalizing s with
  | nil => rfl
  | cons m before ih =>
    rw [List.cons_append, intake, ih, intake, List.append_assoc]
    rfl

/-- The stores after a schedule are the fold of all that they have taken in. -/
theorem takesIn_after (s : Session) (schedule : List Moment) :
    s.TakesIn (s.intake schedule) (s.after schedule) := by
  induction schedule generalizing s with
  | nil => exact .of_unmoved (.refl s)
  | cons m schedule ih =>
    have h := takesIn_next s m
    have hr := ih (s.next m)
    refine ⟨?_, ?_, hr.frameLimit.trans h.frameLimit⟩
    · rw [intake, List.foldl_append, ← h.stores, ← h.frameLimit]
      exact hr.stores
    · rw [intake, List.filterMap_append, ← List.append_assoc, ← h.taken]
      exact hr.taken

/-- Nothing is taken in by a session that is over. -/
theorem Over.intake_eq_nil {s : Session} (h : s.Over) (schedule : List Moment) :
    s.intake schedule = [] := by
  induction schedule generalizing s with
  | nil => rfl
  | cons m schedule ih =>
    obtain ⟨ho, hu⟩ := next_over h m
    have ht : s.takes m = [] := by
      cases m with
      | turn heeds => simp [takes, taken, hu.journal]
      | operation o => cases o <;> simp [takes, h.not_live]
    rw [intake, ht, ih ho]
    rfl

/-! ### The fold and the links -/

/-- An idle session has heard all that its links were fed. -/
theorem Delivery.heard_of_isIdle {os : List Operation} {s : Session} (h : Delivery os s)
    (live : s.phase = .live) (idle : s.IsIdle) {n : Nat} (hn : n ∈ s.connected) :
    s.heard n = feed n os := by
  by_cases hr : s.task = .reading n
  · obtain ⟨-, link, found, tracks⟩ := h.reading live n hr
    have empty : link.waiting = [] := by
      rw [IsIdle, turn_of_live live, proceed, hr] at idle
      exact (read_eq_none_iff.mp idle link found).1
    have fed := tracks.fed
    rw [empty] at fed
    exact (fed.trans (List.append_nil _)).symm
  · exact ((h.behind n hn).resolve_right fun hc => hr (hc.reading live)).1

theorem Delivery.heard_prefix {os : List Operation} {s : Session} (h : Delivery os s) {n : Nat}
    (hn : n ∈ s.connected) : s.heard n <+: feed n os := by
  rcases h.behind n hn with he | hc
  · exact ⟨[], (List.append_nil _).trans he.1⟩
  · exact hc.taken

/-- All is heard of a link that is not the last one. -/
theorem Delivery.heard_of_mem_dropLast {os : List Operation} {s : Session} (h : Delivery os s)
    {n : Nat} (hn : n ∈ s.connected.dropLast) : s.heard n = feed n os := by
  refine ((h.behind n ((List.dropLast_sublist _).subset hn)).resolve_right fun hc => ?_).1
  obtain ⟨before, hb⟩ := List.getLast?_eq_some_iff.mp hc.last
  have distinct := h.distinct
  rw [hb, List.dropLast_concat] at hn
  rw [hb] at distinct
  exact (List.nodup_append.mp distinct).2.2 n hn n (List.mem_singleton_self n) rfl

/-- What has become of the frames and the stores after a schedule that has led to
the session `s`. -/
structure Refines (c : Config) (schedule : List Moment) (s : Session) : Prop where
  /-- The stores are the fold of all that was taken in. -/
  stores : s.stores =
    ((ofConfig c).intake schedule).foldl (Stores.takeIn c.frameLimit)
      (.empty c.eventCapacity)
  /-- The frames among it are those of the connected links, one link after the other. -/
  frames : ((ofConfig c).intake schedule).filterMap Intake.frame? =
    s.connected.flatMap fun n => (s.heard n).map (n, ·)
  /-- The links are connected in the order in which they were planned, and none is
  passed by. -/
  order : s.connected <+: List.range (planned (operations schedule))
  /-- What was heard of a link is a beginning of what it was fed. -/
  fed : ∀ n ∈ s.connected, s.heard n <+: feed n (operations schedule)
  /-- All of it was heard if the link was left for another one. -/
  left : ∀ n ∈ s.connected.dropLast, s.heard n = feed n (operations schedule)
  /-- All of it was heard of every link when the session is live and idle. -/
  heard : s.phase = .live → s.IsIdle →
    ∀ n ∈ s.connected, s.heard n = feed n (operations schedule)
  /-- Nothing is taken in once the session is over. -/
  ended : ∀ before later, schedule = before ++ later → ((ofConfig c).after before).Over →
    (ofConfig c).intake schedule = (ofConfig c).intake before

theorem after_refines (c : Config) (schedule : List Moment) :
    Refines c schedule ((ofConfig c).after schedule) := by
  have fold := takesIn_after (ofConfig c) schedule
  have delivery := after_delivery c schedule
  have frames : ((ofConfig c).after schedule).taken =
      ((ofConfig c).intake schedule).filterMap Intake.frame? := fold.taken
  refine ⟨fold.stores, ?_, delivery.planned ▸ delivery.ordered,
    fun n hn => delivery.heard_prefix hn, fun n hn => delivery.heard_of_mem_dropLast hn,
    fun live idle n hn => delivery.heard_of_isIdle live idle hn, ?_⟩
  · rw [← frames]
    exact delivery.grouped
  · intro before later hs ended
    rw [hs, intake_append, ended.intake_eq_nil, List.append_nil]

/-- **A session refines the plain dispatch of frames.** After every schedule of
operations and turns its stores are the fold of what they have taken in, and that
is what its links were fed, one link after the other. Every run of operations is
such a schedule, and ends in an idle session. -/
theorem session_refines_dispatch (c : Config) (hd : 0 < c.reconnectDelay) :
    (∀ schedule, Refines c schedule ((ofConfig c).after schedule)) ∧
      ∀ os, ((ofConfig c).run os).IsIdle ∧ ∃ schedule,
        (ofConfig c).run os = (ofConfig c).after schedule ∧
          stimuli (operations schedule) = stimuli os ∧
            ∀ n, feed n (operations schedule) = feed n os := by
  refine ⟨after_refines c, fun os => ⟨run_isIdle (s := ofConfig c) hd rfl os, ?_⟩⟩
  obtain ⟨schedule, hrun, hos⟩ := plays_run (ofConfig c) os
  refine ⟨schedule, hrun, hos, fun n => ?_⟩
  rw [← feed_stimuli, hos, feed_stimuli]

/-- Two links, the first of which fails in front of a frame. -/
theorem session_refines_dispatch_two_links :
    ∃ s : Session, s = (ofConfig sampleConfig).run
        [.planLink, .planLink, .start, .frames 0 [[1]], .failure 0, .frames 0 [[2]],
          .frames 1 [[3], [4]], .wait 3000] ∧
      s.IsIdle ∧ s.taken = [(0, [1]), (1, [3]), (1, [4])] := by
  have h := session_refines_dispatch sampleConfig (by decide)
  exact ⟨_, rfl, (h.2 _).1, by decide⟩

end Session

end PipelineWatch
