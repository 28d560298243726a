import PipelineWatch.Proofs.Session.Mirror
import PipelineWatch.Session.Subscription

/-!
Reading one notice at a time, and what there is to read of the events. A follower who reads
all there is reads the same notices one after the other. Whatever moves the events is told,
and events that were taken out are gone until something else is told of them.
-/
namespace PipelineWatch.Session

/-! ### One notice -/

namespace Subscription

/-- The updates that have been neither read nor lost, newest first. -/
def waiting (r : Subscription) (sent : List Update) : List Update :=
  sent.take (sent.length - r.seen)

/-- Reads one notice, if there is one: how many updates were lost if the oldest one is no
longer kept, and this one otherwise. -/
def receive (r : Subscription) (size : Nat) (sent : List Update) :
    Option (Notice × Subscription) :=
  if size < sent.length - r.seen then
    some (.lagged (sent.length - r.seen - size), ⟨sent.length - size⟩)
  else sent.reverse[r.seen]?.map fun u => (.update u, ⟨r.seen + 1⟩)

variable {r r' : Subscription} {size : Nat} {sent : List Update} {n : Notice}

theorem waiting_append (h : r.seen ≤ sent.length) (new : List Update) :
    r.waiting (new ++ sent) = new ++ r.waiting sent := by
  have more : (new ++ sent).length - r.seen = new.length + (sent.length - r.seen) := by
    rw [List.length_append]
    omega
  rw [waiting, more, List.take_length_add_append, waiting]

theorem receive_eq_none_iff : r.receive size sent = none ↔ sent.length ≤ r.seen := by
  unfold receive
  split
  · simp only [reduceCtorEq, false_iff]
    omega
  · simp

/-- What is read is the oldest of the updates that wait, or stands for the oldest ones. -/
inductive Receives (r r' : Subscription) (size : Nat) (sent : List Update) : Notice → Prop
  | update (u : Update) (waits : r.waiting sent = r'.waiting sent ++ [u])
      (few : (r.waiting sent).length ≤ size) : Receives r r' size sent (.update u)
  | lagged (lost : List Update) (waits : r.waiting sent = r'.waiting sent ++ lost)
      (full : (r'.waiting sent).length = size) (some : lost ≠ []) :
      Receives r r' size sent (.lagged lost.length)

theorem receives_of_receive (h : r.receive size sent = some (n, r')) :
    Receives r r' size sent n ∧ r.seen < r'.seen ∧ r'.seen ≤ sent.length := by
  unfold receive at h
  split at h
  · rename_i many
    obtain ⟨rfl, rfl⟩ : _ = n ∧ _ = r' := by simpa using h
    -- the newest are kept, and the rest of what waits is lost
    have kept : waiting ⟨sent.length - size⟩ sent = sent.take size := by
      show sent.take (sent.length - (sent.length - size)) = _
      congr 1
      omega
    have split : r.waiting sent = sent.take size ++
        (sent.drop size).take (sent.length - r.seen - size) := by
      rw [waiting, ← List.take_add]
      congr 1
      omega
    have lost : ((sent.drop size).take (sent.length - r.seen - size)).length =
        sent.length - r.seen - size := by
      rw [List.length_take, List.length_drop]
      omega
    refine ⟨?_, ?_, ?_⟩
    · rw [← lost]
      refine .lagged _ (by rw [kept, ← split]) ?_ ?_
      · rw [kept, List.length_take]
        omega
      · rw [← List.length_pos_iff, lost]
        omega
    · show r.seen < sent.length - size
      omega
    · exact Nat.sub_le ..
  · rename_i few
    obtain ⟨u, hu, rfl, rfl⟩ : ∃ u, sent.reverse[r.seen]? = some u ∧ _ = n ∧ _ = r' := by
      simpa using h
    have hlt : r.seen < sent.length := by
      simpa using (List.getElem?_eq_some_iff.mp hu).1
    have oldest : sent[sent.length - (r.seen + 1)]? = some u := by
      rw [List.getElem?_reverse hlt] at hu
      rw [← hu]
      congr 1
      omega
    refine ⟨.update u ?_ ?_, Nat.lt_succ_self _, hlt⟩
    · have next : sent.length - r.seen = sent.length - (r.seen + 1) + 1 := by omega
      rw [waiting, next, List.take_add_one, oldest]
      rfl
    · rw [waiting, List.length_take]
      omega

/-- Those who read all there is read one notice after the other. -/
theorem unread_eq_nil (h : r.receive size sent = none) : r.unread size sent = [] := by
  have all := receive_eq_none_iff.mp h
  have none : sent.length - r.seen = 0 := by omega
  simp [unread, none]

end Subscription

/-! ### Updates of the events -/

/-- Whether the update tells that the events have moved. -/
def Update.movesEvents : Update → Bool
  | .dispatched outcome => outcome.changedEvents
  | .eventsCleared => true
  | _ => false

/-- None of these updates tells that the events have moved. -/
def Still (updates : List Update) : Prop :=
  ∀ u ∈ updates, u.movesEvents = false

theorem still_append {us vs : List Update} : Still (us ++ vs) ↔ Still us ∧ Still vs := by
  simp only [Still, List.mem_append, or_imp, forall_and]

/-- `t` has told what `s` has, and something new, and its events are those of `s` unless
that tells that they have moved. -/
def TellsEvents (s t : Session) : Prop :=
  ∃ new, t.sent = new ++ s.sent ∧ (Still new → t.stores.events = s.stores.events)

theorem TellsEvents.of_journal {s t : Session} (entries : List Entry)
    (hj : t.journal = entries ++ s.journal) (he : t.stores.events = s.stores.events) :
    TellsEvents s t :=
  ⟨entries.filterMap Entry.update?, by rw [sent, hj, List.filterMap_append]; rfl, fun _ => he⟩

theorem TellsEvents.of_unmoved {s t : Session} (h : Unmoved s t) : TellsEvents s t :=
  .of_journal [] h.journal (by rw [h.stores])

theorem Advance.tellsEvents {s t : Session} (h : Advance s t) : TellsEvents s t := by
  cases h with
  | attempt => exact .of_journal (⟨s.clock, .attempt⟩ :: s.herald .connecting) rfl rfl
  | refused => exact .of_journal (s.herald .disconnected) rfl rfl
  | connected n => exact .of_journal (⟨s.clock, .connect n⟩ :: s.herald .connected) rfl rfl
  | lost => exact .of_journal (s.herald .disconnected) rfl rfl
  | ended => exact .of_journal [] rfl rfl
  | frame n link bytes =>
    refine ⟨(s.reception n bytes).filterMap Entry.update?, List.filterMap_append, ?_⟩
    intro still
    refine Stores.dispatch_events_eq ?_
    cases hc : (s.stores.dispatch s.frameLimit bytes).1.changedEvents with
    | false => rfl
    | true =>
      have told : .dispatched (s.stores.dispatch s.frameLimit bytes).1 ∈
          (s.reception n bytes).filterMap Entry.update? := by
        simp [reception, Store.Outcome.changed, hc, Entry.update?]
      exact hc.symm.trans (still _ told)

theorem tellsEvents_clear (s : Session) (clean : Stores → Stores) (u : Update)
    (h : u.movesEvents = true ∨ (clean s.stores).events = s.stores.events) :
    TellsEvents s (s.clear clean u) := by
  by_cases live : s.phase = .live
  · rw [clear_of_live live]
    refine ⟨[u], rfl, fun still => h.resolve_left fun moves => ?_⟩
    exact Bool.false_ne_true ((still u (by simp)).symm.trans moves)
  · rw [clear_of_not_live live]
    exact .of_unmoved (.refl s)

theorem happen_tellsEvents (s : Session) (o : Operation) : TellsEvents s (s.happen o) := by
  by_cases he : o = .clearEvents
  · subst he
    exact tellsEvents_clear s _ _ (.inl rfl)
  · by_cases ha : o = .clearApprovals
    · subst ha
      exact tellsEvents_clear s _ _ (.inr rfl)
    · exact .of_unmoved (happen_unmoved s he ha)

/-- Whatever moves the events is told. -/
theorem next_tellsEvents (s : Session) (m : Moment) : TellsEvents s (s.next m) := by
  cases m with
  | operation o => exact happen_tellsEvents s o
  | turn heeds =>
    rcases next_turn s heeds with he | ha
    · rw [he]
      exact .of_unmoved (.refl s)
    · exact ha.tellsEvents

/-! ### Events that were taken out -/

theorem Mirror.follow_events {u : Update} (h : u.movesEvents = false) (capacity : Nat)
    (m : Mirror) : (m.follow capacity u).events = m.events := by
  cases u with
  | dispatched o =>
    cases o with
    | eventInserted => cases h
    | historyAppended => cases h
    | _ => rfl
  | eventsCleared => cases h
  | _ => rfl

theorem Mirror.foldr_events {us : List Update} (h : Still us) (capacity : Nat) (m : Mirror) :
    (us.foldr (fun u m => m.follow capacity u) m).events = m.events := by
  induction us with
  | nil => rfl
  | cons u us ih =>
    rw [List.foldr_cons, follow_events (h u (by simp)), ih fun v hv => h v (by simp [hv])]

/-- There are no events if none were told of since they were taken out. -/
theorem Mirrored.events_eq_nil {capacity : Nat} {s : Session} (h : s.Mirrored capacity)
    {newer older : List Update} (hs : s.sent = newer ++ .eventsCleared :: older)
    (still : Still newer) : s.stores.events.list = [] := by
  have ids : s.stores.events.ids = [] := by
    calc s.stores.events.ids = (Mirror.ofJournal capacity s.journal).events := by
          rw [h.mirror]
          rfl
      _ = (s.sent.foldr (fun u (m : Mirror) => m.follow capacity u) Mirror.initial).events := rfl
      _ = [] := by
          rw [hs, List.foldr_append, Mirror.foldr_events still]
          rfl
  exact List.map_eq_nil_iff.mp ids

theorem Mirrored.next {capacity : Nat} {s : Session} (h : s.Mirrored capacity) (m : Moment) :
    (s.next m).Mirrored capacity := by
  cases m with
  | operation o => exact h.happen o
  | turn heeds =>
    rcases next_turn s heeds with he | ha
    · rwa [he]
    · exact h.advance ha

end PipelineWatch.Session
