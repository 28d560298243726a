import PipelineWatch.Store.Dispatch

/-!
What a frame does to the stores. `Effect` lists the outcomes of a message with all that each
of them changes, and `FrameEffect` those of a frame; `dispatch_effect` says that there are no
others. What a frame does to the ids in the stores is read off its outcome alone.
-/
namespace PipelineWatch

namespace Store

/-! ### Events -/

theorem Events.contains_iff {s : Events} {id : String} : s.contains id = true ↔ id ∈ s.ids := by
  simp [contains, ids]

theorem Events.contains_eq_false_iff {s : Events} {id : String} :
    s.contains id = false ↔ id ∉ s.ids := by
  rw [← contains_iff, Bool.not_eq_true]

theorem Events.ids_pushLive (s : Events) (e : Event) :
    (s.pushLive e).ids = (e.id :: s.ids).take s.capacity := by
  simp [pushLive, ids, List.map_take]

theorem Events.pushHistory_of_contains {s : Events} {e : Event} (h : s.contains e.id = true) :
    s.pushHistory e = (false, s) := by
  simp [pushHistory, h]

theorem Events.pushHistory_of_not_contains {s : Events} {e : Event}
    (h : s.contains e.id = false) :
    s.pushHistory e = (true, { s with list := s.list ++ [e] }) := by
  simp [pushHistory, h]

/-! ### Approvals -/

theorem Approvals.contains_iff {s : Approvals} {id : String} :
    s.contains id = true ↔ id ∈ s.ids := by
  simp [contains, ids]

theorem Approvals.contains_eq_false_iff {s : Approvals} {id : String} :
    s.contains id = false ↔ id ∉ s.ids := by
  rw [← contains_iff, Bool.not_eq_true]

theorem Approvals.insert_of_contains {s : Approvals} {a : Approval}
    (h : s.contains a.id = true) : s.insert a = (false, s) := by
  simp [insert, h]

theorem Approvals.insert_of_not_contains {s : Approvals} {a : Approval}
    (h : s.contains a.id = false) : s.insert a = (true, ⟨a :: s.list⟩) := by
  simp [insert, h]

theorem Approvals.remove_of_not_contains {s : Approvals} {id : String}
    (h : s.contains id = false) : s.remove id = (none, s) := by
  have hn : ∀ a ∈ s.list, ¬ (a.id == id) = true := by
    simpa [contains] using h
  have hf : s.list.find? (fun a => a.id == id) = none :=
    List.find?_eq_none.mpr hn
  simp only [remove, hf, List.eraseP_of_forall_not hn]

/-- The first approval with the id is taken out from between the others. -/
theorem Approvals.remove_of_contains {s : Approvals} {id : String} (h : s.contains id = true) :
    ∃ a before after, s.list = before ++ a :: after ∧ a.id = id ∧ (∀ b ∈ before, b.id ≠ id) ∧
      s.remove id = (some a, ⟨before ++ after⟩) := by
  obtain ⟨b, hb, hid⟩ : ∃ b ∈ s.list, (b.id == id) = true := by
    simpa [contains] using h
  obtain ⟨a, before, after, apart, found, list, rest⟩ :=
    List.exists_of_eraseP (p := fun a => a.id == id) hb hid
  have others : ∀ b ∈ before, ¬ (b.id == id) = true := fun b hb => apart b hb
  refine ⟨a, before, after, list, by simpa using found, by simpa using others, ?_⟩
  rw [remove, rest, list, List.find?_append, List.find?_eq_none.mpr others]
  simp [found]

end Store

namespace Stores

open Store (Outcome)

/-! ### Messages -/

/-- What a message makes of the stores `s`: the outcome and the stores that come out of it. -/
inductive Effect (s : Stores) : Message → Outcome → Stores → Prop where
  | eventInserted (e : Event) :
      Effect s (.event e) (.eventInserted e.id) { s with events := s.events.pushLive e }
  | historyAppended (h : History) (absent : h.id ∉ s.events.ids) :
      Effect s (.history h) (.historyAppended h.id)
        { s with events := { s.events with list := s.events.list ++ [h.toEvent] } }
  | historyDuplicate (h : History) (present : h.id ∈ s.events.ids) :
      Effect s (.history h) (.historyDuplicate h.id) s
  | approvalQueued (a : Approval) (absent : a.id ∉ s.approvals.ids) :
      Effect s (.approval a) (.approvalQueued a.id)
        { s with approvals := ⟨a :: s.approvals.list⟩ }
  | approvalDuplicate (a : Approval) (present : a.id ∈ s.approvals.ids) :
      Effect s (.approval a) (.approvalDuplicate a.id) s
  /-- The pending approval is the first one with the id that was decided. -/
  | approvalResolved (decided a : Approval) (before after : List Approval)
      (found : s.approvals.list = before ++ a :: after) (same : a.id = decided.id)
      (first : ∀ b ∈ before, b.id ≠ decided.id) :
      Effect s (.approvalDecided decided) (.approvalResolved decided.id)
        { s with approvals := ⟨before ++ after⟩ }
  | approvalAbsent (decided : Approval) (absent : decided.id ∉ s.approvals.ids) :
      Effect s (.approvalDecided decided) (.approvalAbsent decided.id) s

/-- Every message has one of the effects listed. -/
theorem apply_effect (s : Stores) (m : Message) : Effect s m (s.apply m).1 (s.apply m).2 := by
  cases m with
  | event e => exact .eventInserted e
  | history h =>
    cases hc : s.events.contains h.toEvent.id with
    | true =>
      simp only [apply, Store.Events.pushHistory_of_contains hc]
      exact .historyDuplicate h (Store.Events.contains_iff.mp hc)
    | false =>
      simp only [apply, Store.Events.pushHistory_of_not_contains hc]
      exact .historyAppended h (Store.Events.contains_eq_false_iff.mp hc)
  | approval a =>
    cases hc : s.approvals.contains a.id with
    | true =>
      simp only [apply, Store.Approvals.insert_of_contains hc]
      exact .approvalDuplicate a (Store.Approvals.contains_iff.mp hc)
    | false =>
      simp only [apply, Store.Approvals.insert_of_not_contains hc]
      exact .approvalQueued a (Store.Approvals.contains_eq_false_iff.mp hc)
  | approvalDecided decided =>
    cases hc : s.approvals.contains decided.id with
    | true =>
      obtain ⟨a, before, after, found, same, first, removed⟩ :=
        Store.Approvals.remove_of_contains hc
      simp only [apply, removed]
      exact .approvalResolved decided a before after found same first
    | false =>
      simp only [apply, Store.Approvals.remove_of_not_contains hc]
      exact .approvalAbsent decided (Store.Approvals.contains_eq_false_iff.mp hc)

/-! ### Frames -/

/-- What a frame makes of the stores `s`, by what it is decoded to. -/
inductive FrameEffect (s : Stores) :
    Except Frame.Failure Frame.Decoded → Outcome → Stores → Prop where
  | message {m : Message} {o : Outcome} {t : Stores} (effect : Effect s m o t) :
      FrameEffect s (.ok (.message m)) o t
  | ignored (type : String) : FrameEffect s (.ok (.unrecognized type)) (.ignored type) s
  | discarded (e : Frame.Failure) : FrameEffect s (.error e) .discarded s

/-- Every frame has one of these effects. -/
theorem dispatch_effect (limit : Nat) (s : Stores) (frame : List UInt8) :
    FrameEffect s (Frame.decode limit frame) (s.dispatch limit frame).1
      (s.dispatch limit frame).2 := by
  cases decoded : Frame.decode limit frame with
  | error e =>
    rw [dispatch, decoded]
    exact .discarded e
  | ok d =>
    cases d with
    | message m =>
      rw [dispatch, decoded]
      exact .message (apply_effect s m)
    | unrecognized type =>
      rw [dispatch, decoded]
      exact .ignored type

/-! ### Ids -/

/-- The ids of the events after a frame of this outcome. -/
def eventIdsAfter (capacity : Nat) (ids : List String) : Outcome → List String
  | .eventInserted id => (id :: ids).take capacity
  | .historyAppended id => ids ++ [id]
  | _ => ids

/-- The ids of the approvals after a frame of this outcome. -/
def approvalIdsAfter (ids : List String) : Outcome → List String
  | .approvalQueued id => id :: ids
  | .approvalResolved id => ids.erase id
  | _ => ids

/-- What an outcome says of the stores `t` that come out of the stores `s`. -/
structure Tells (s t : Stores) (o : Outcome) : Prop where
  capacity : t.events.capacity = s.events.capacity
  events : t.events.ids = eventIdsAfter s.events.capacity s.events.ids o
  approvals : t.approvals.ids = approvalIdsAfter s.approvals.ids o
  unchanged : o.changed = false → t = s

theorem Effect.tells {s t : Stores} {m : Message} {o : Outcome} (h : Effect s m o t) :
    s.Tells t o := by
  cases h with
  | eventInserted e =>
    refine ⟨rfl, s.events.ids_pushLive e, rfl, ?_⟩
    simp [Outcome.changed, Outcome.changedEvents]
  | historyAppended h =>
    refine ⟨rfl, ?_, rfl, ?_⟩
    · simp [Store.Events.ids, eventIdsAfter, History.toEvent]
    · simp [Outcome.changed, Outcome.changedEvents]
  | approvalQueued a =>
    refine ⟨rfl, rfl, rfl, ?_⟩
    simp [Outcome.changed, Outcome.changedApprovals]
  | approvalResolved decided a before after found same first =>
    refine ⟨rfl, rfl, ?_, ?_⟩
    · have apart : decided.id ∉ before.map (·.id) := by simpa using first
      show (before ++ after).map (·.id) = (s.approvals.list.map (·.id)).erase decided.id
      rw [found, List.map_append, List.map_append, List.erase_append_right _ apart, List.map_cons,
        same, List.erase_cons_head]
    · simp [Outcome.changed, Outcome.changedApprovals]
  | historyDuplicate | approvalDuplicate | approvalAbsent => exact ⟨rfl, rfl, rfl, fun _ => rfl⟩

theorem FrameEffect.tells {s t : Stores} {d : Except Frame.Failure Frame.Decoded} {o : Outcome}
    (h : FrameEffect s d o t) : s.Tells t o := by
  cases h with
  | message effect => exact effect.tells
  | ignored | discarded => exact ⟨rfl, rfl, rfl, fun _ => rfl⟩

/-- The outcome of a frame tells all that the frame does to the ids. -/
theorem dispatch_tells (limit : Nat) (s : Stores) (frame : List UInt8) :
    s.Tells (s.dispatch limit frame).2 (s.dispatch limit frame).1 :=
  (dispatch_effect limit s frame).tells

/-! ### Stores that stay -/

/-- The events are the same unless the outcome says that they have changed. -/
theorem FrameEffect.events_eq {s t : Stores} {d : Except Frame.Failure Frame.Decoded} {o : Outcome}
    (h : FrameEffect s d o t) (ho : o.changedEvents = false) : t.events = s.events := by
  cases h with
  | ignored | discarded => rfl
  | message effect =>
    cases effect with
    | eventInserted => cases ho
    | historyAppended => cases ho
    | _ => rfl

/-- So are the approvals. -/
theorem FrameEffect.approvals_eq {s t : Stores} {d : Except Frame.Failure Frame.Decoded}
    {o : Outcome} (h : FrameEffect s d o t) (ho : o.changedApprovals = false) :
    t.approvals = s.approvals := by
  cases h with
  | ignored | discarded => rfl
  | message effect =>
    cases effect with
    | approvalQueued => cases ho
    | approvalResolved => cases ho
    | _ => rfl

theorem dispatch_events_eq {limit : Nat} {s : Stores} {frame : List UInt8}
    (h : (s.dispatch limit frame).1.changedEvents = false) :
    (s.dispatch limit frame).2.events = s.events :=
  (dispatch_effect limit s frame).events_eq h

end Stores

end PipelineWatch
