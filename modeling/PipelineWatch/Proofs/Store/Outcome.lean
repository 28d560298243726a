import PipelineWatch.Proofs.Store.Dispatch

/-!
Outcomes are the truth. The outcome of a frame tells what the frame was decoded to and whether
its id was in the store; a frame changes what its outcome says has changed, and nothing else.
-/
namespace PipelineWatch.Stores

open Store (Outcome)

/-- What has to be so of a frame, and of the stores that it comes to, for it to have this
outcome. -/
def Warrants (limit : Nat) (s : Stores) (frame : List UInt8) : Outcome → Prop
  | .eventInserted id =>
    ∃ e : Event, Frame.decode limit frame = .ok (.message (.event e)) ∧ e.id = id
  | .historyAppended id =>
    (∃ h : History, Frame.decode limit frame = .ok (.message (.history h)) ∧ h.id = id) ∧
      id ∉ s.events.ids
  | .historyDuplicate id =>
    (∃ h : History, Frame.decode limit frame = .ok (.message (.history h)) ∧ h.id = id) ∧
      id ∈ s.events.ids
  | .approvalQueued id =>
    (∃ a : Approval, Frame.decode limit frame = .ok (.message (.approval a)) ∧ a.id = id) ∧
      id ∉ s.approvals.ids
  | .approvalDuplicate id =>
    (∃ a : Approval, Frame.decode limit frame = .ok (.message (.approval a)) ∧ a.id = id) ∧
      id ∈ s.approvals.ids
  | .approvalResolved id =>
    (∃ a : Approval, Frame.decode limit frame = .ok (.message (.approvalDecided a)) ∧
      a.id = id) ∧ id ∈ s.approvals.ids
  | .approvalAbsent id =>
    (∃ a : Approval, Frame.decode limit frame = .ok (.message (.approvalDecided a)) ∧
      a.id = id) ∧ id ∉ s.approvals.ids
  | .ignored type => Frame.decode limit frame = .ok (.unrecognized type)
  | .discarded => ∃ e, Frame.decode limit frame = .error e

variable {limit : Nat} {s t : Stores} {frame : List UInt8} {m : Message} {o o' : Outcome}

/-! ### Which outcome -/

theorem Effect.warrants (h : Effect s m o t)
    (decoded : Frame.decode limit frame = .ok (.message m)) : Warrants limit s frame o := by
  cases h with
  | eventInserted e => exact ⟨e, decoded, rfl⟩
  | historyAppended b absent => exact ⟨⟨b, decoded, rfl⟩, absent⟩
  | historyDuplicate b present => exact ⟨⟨b, decoded, rfl⟩, present⟩
  | approvalQueued a absent => exact ⟨⟨a, decoded, rfl⟩, absent⟩
  | approvalDuplicate a present => exact ⟨⟨a, decoded, rfl⟩, present⟩
  | approvalResolved decided a before after found same first =>
    refine ⟨⟨decided, decoded, rfl⟩, ?_⟩
    rw [Store.Approvals.ids, found, ← same]
    simp
  | approvalAbsent a absent => exact ⟨⟨a, decoded, rfl⟩, absent⟩

theorem FrameEffect.warrants (h : FrameEffect s (Frame.decode limit frame) o t) :
    Warrants limit s frame o := by
  generalize decoded : Frame.decode limit frame = d at h
  cases h with
  | message effect => exact effect.warrants decoded
  | ignored type => exact decoded
  | discarded e => exact ⟨e, decoded⟩

/-- Not more than one outcome is warranted. -/
theorem Warrants.unique (h : Warrants limit s frame o) (h' : Warrants limit s frame o') :
    o = o' := by
  cases o <;> cases o' <;> grind [Warrants]

/-! ### What changes -/

/-- The list of pending approvals before a message of this outcome and after it. It has one
approval more in front, or the first one with the id is gone from between the others. -/
inductive Amends : Message → Outcome → List Approval → List Approval → Prop where
  | queued (a : Approval) (list : List Approval) (absent : ∀ b ∈ list, b.id ≠ a.id) :
      Amends (.approval a) (.approvalQueued a.id) list (a :: list)
  | resolved (decided a : Approval) (before after : List Approval) (same : a.id = decided.id)
      (first : ∀ b ∈ before, b.id ≠ decided.id) :
      Amends (.approvalDecided decided) (.approvalResolved decided.id) (before ++ a :: after)
        (before ++ after)

theorem Effect.amends (h : Effect s m o t) (ho : o.changedApprovals = true) :
    Amends m o s.approvals.list t.approvals.list := by
  cases h with
  | approvalQueued a absent => exact .queued a _ (by simpa [Store.Approvals.ids] using absent)
  | approvalResolved decided a before after found same first =>
    rw [found]
    exact .resolved decided a before after same first
  | _ => cases ho

theorem FrameEffect.amends (h : FrameEffect s (Frame.decode limit frame) o t)
    (ho : o.changedApprovals = true) :
    ∃ m, Frame.decode limit frame = .ok (.message m) ∧
      Amends m o s.approvals.list t.approvals.list := by
  generalize Frame.decode limit frame = d at h ⊢
  cases h with
  | message effect => exact ⟨_, rfl, effect.amends ho⟩
  | ignored | discarded => cases ho

/-- No frame changes both stores. -/
theorem changedApprovals_eq_false (h : o.changedEvents = true) : o.changedApprovals = false := by
  cases o <;> first | rfl | cases h

theorem changedEvents_eq_false (h : o.changedApprovals = true) : o.changedEvents = false := by
  cases o <;> first | rfl | cases h

/-- What is true of the outcome of a frame and of the stores that come out of `s`. -/
structure Truthful (limit : Nat) (s : Stores) (frame : List UInt8) : Prop where
  /-- A frame has the outcome that is warranted, and no other one. -/
  warranted : ∀ o, (s.dispatch limit frame).1 = o ↔ Warrants limit s frame o
  /-- Where nothing is said to have changed, both stores are what they were. -/
  unchanged : (s.dispatch limit frame).1.changedEvents = false →
    (s.dispatch limit frame).1.changedApprovals = false → (s.dispatch limit frame).2 = s
  /-- Where the events have changed, the approvals are what they were, -/
  events : (s.dispatch limit frame).1.changedEvents = true →
    (s.dispatch limit frame).2.approvals = s.approvals
  /-- and where the approvals have changed, so are the events, and the approvals differ in
  the one that is named. -/
  approvals : (s.dispatch limit frame).1.changedApprovals = true →
    (s.dispatch limit frame).2.events = s.events ∧
      ∃ m, Frame.decode limit frame = .ok (.message m) ∧
        Amends m (s.dispatch limit frame).1 s.approvals.list
          (s.dispatch limit frame).2.approvals.list

/-- **The outcome of a frame is the truth**, whatever the frame and whatever the stores. -/
theorem outcome_is_truthful (limit : Nat) (s : Stores) (frame : List UInt8) :
    Truthful limit s frame := by
  have effect := dispatch_effect limit s frame
  constructor
  case warranted =>
    intro o
    constructor
    · rintro rfl
      exact effect.warrants
    · exact effect.warrants.unique
  case unchanged =>
    intro he ha
    exact effect.tells.unchanged (by rw [Outcome.changed, he, ha]; rfl)
  case events => exact fun he => effect.approvals_eq (changedApprovals_eq_false he)
  case approvals => exact fun ha => ⟨effect.events_eq (changedEvents_eq_false ha), effect.amends ha⟩

end PipelineWatch.Stores
