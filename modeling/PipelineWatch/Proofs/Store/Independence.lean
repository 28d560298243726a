import PipelineWatch.Proofs.Store.Dispatch

/-!
The two stores do not interfere. Frames of all kinds come one after the other, but the
events are made by the frames that are for the events alone, and the approvals by those
that are for the approvals. A frame that is for neither can stand anywhere.
-/
namespace PipelineWatch

/-- One of the two stores. -/
inductive Store.Side where
  | events
  | approvals
deriving DecidableEq, Repr

/-- The store that a message is for. -/
def Message.side : Message → Store.Side
  | .event _ => .events
  | .history _ => .events
  | .approval _ => .approvals
  | .approvalDecided _ => .approvals

/-- The store that a frame is for, if a message can be read from it. -/
def Frame.side? (limit : Nat) (frame : List UInt8) : Option Store.Side :=
  match Frame.decode limit frame with
  | .ok (.message m) => some m.side
  | _ => none

/-- Whether a frame is for this store. -/
def Frame.isFor (limit : Nat) (side : Store.Side) (frame : List UInt8) : Bool :=
  Frame.side? limit frame == some side

namespace Stores

open Store (Outcome Side)

/-- The contents of `s` and `t` are the same on this side. -/
def AgreeOn (side : Side) (s t : Stores) : Prop :=
  match side with
  | .events => s.events = t.events
  | .approvals => s.approvals = t.approvals

/-- The stores after some frames. -/
def dispatchAll (limit : Nat) (s : Stores) (frames : List (List UInt8)) : Stores :=
  frames.foldl (fun s frame => (s.dispatch limit frame).2) s

/-- The frames in their order, each with its outcome. -/
def outcomes (limit : Nat) (s : Stores) : List (List UInt8) → List (List UInt8 × Outcome)
  | [] => []
  | frame :: frames =>
    (frame, (s.dispatch limit frame).1) :: outcomes limit (s.dispatch limit frame).2 frames

/-- The outcomes of the frames that are for this store, in their order. -/
def outcomesFor (limit : Nat) (side : Side) (s : Stores) (frames : List (List UInt8)) :
    List (List UInt8 × Outcome) :=
  (s.outcomes limit frames).filter fun p => Frame.isFor limit side p.1

theorem AgreeOn.refl (side : Side) (s : Stores) : AgreeOn side s s := by
  cases side <;> rfl

theorem AgreeOn.symm {side : Side} {s t : Stores} (h : AgreeOn side s t) : AgreeOn side t s := by
  cases side <;> exact Eq.symm h

theorem AgreeOn.trans {side : Side} {s t u : Stores} (h : AgreeOn side s t)
    (h' : AgreeOn side t u) : AgreeOn side s u := by
  cases side <;> exact Eq.trans h h'

/-- Stores that are the same on both sides are the same. -/
theorem eq_of_agreeOn {s t : Stores} (h : ∀ side, AgreeOn side s t) : s = t := by
  obtain ⟨events, approvals⟩ := s
  obtain rfl : events = t.events := h .events
  obtain rfl : approvals = t.approvals := h .approvals
  rfl

/-! ### One frame -/

/-- A message leaves the other store as it is. -/
theorem Effect.agreeOn {s t : Stores} {m : Message} {o : Outcome} {side : Side}
    (h : Effect s m o t) (other : m.side ≠ side) : AgreeOn side t s := by
  cases side with
  | events =>
    cases h with
    | eventInserted | historyAppended | historyDuplicate => exact absurd rfl other
    | _ => rfl
  | approvals =>
    cases h with
    | eventInserted | historyAppended | historyDuplicate => rfl
    | _ => exact absurd rfl other

/-- What a message does to its store is told by that store. -/
theorem apply_own {s t : Stores} {m : Message} (h : AgreeOn m.side s t) :
    (s.apply m).1 = (t.apply m).1 ∧ AgreeOn m.side (s.apply m).2 (t.apply m).2 := by
  cases m with
  | event e =>
    have he : s.events = t.events := h
    exact ⟨rfl, congrArg (Store.Events.pushLive · e) he⟩
  | history b =>
    have he : s.events = t.events := h
    simp only [apply, he]
    split <;> exact ⟨rfl, rfl⟩
  | approval a =>
    have ha : s.approvals = t.approvals := h
    simp only [apply, ha]
    split <;> exact ⟨rfl, rfl⟩
  | approvalDecided a =>
    have ha : s.approvals = t.approvals := h
    simp only [apply, ha]
    split <;> exact ⟨rfl, rfl⟩

theorem dispatch_other (limit : Nat) (s : Stores) {frame : List UInt8} {side : Side}
    (h : Frame.side? limit frame ≠ some side) : AgreeOn side (s.dispatch limit frame).2 s := by
  have effect := dispatch_effect limit s frame
  unfold Frame.side? at h
  generalize Frame.decode limit frame = d, (s.dispatch limit frame).1 = o,
    (s.dispatch limit frame).2 = t at h effect ⊢
  cases effect with
  | message effect => exact effect.agreeOn fun same => h (congrArg some same)
  | ignored | discarded => exact .refl side s

theorem dispatch_own {limit : Nat} {s t : Stores} {frame : List UInt8} {side : Side}
    (h : Frame.side? limit frame = some side) (agree : AgreeOn side s t) :
    (s.dispatch limit frame).1 = (t.dispatch limit frame).1 ∧
      AgreeOn side (s.dispatch limit frame).2 (t.dispatch limit frame).2 := by
  unfold Frame.side? at h
  unfold dispatch
  split at h
  · rename_i m hd
    obtain rfl : m.side = side := Option.some.inj h
    rw [hd]
    exact apply_own agree
  · cases h

/-- A frame that is for neither store leaves both, and its outcome is its own. -/
theorem dispatch_neither {limit : Nat} {frame : List UInt8}
    (h : Frame.side? limit frame = none) (s t : Stores) :
    s.dispatch limit frame = ((t.dispatch limit frame).1, s) := by
  unfold Frame.side? at h
  unfold dispatch
  split
  · rename_i m hd
    rw [hd] at h
    cases h
  · rfl
  · rfl

/-! ### Many frames -/

theorem outcomesFor_cons (limit : Nat) (side : Side) (s : Stores) (frame : List UInt8)
    (frames : List (List UInt8)) :
    s.outcomesFor limit side (frame :: frames) =
      if Frame.isFor limit side frame then
        (frame, (s.dispatch limit frame).1) ::
          (s.dispatch limit frame).2.outcomesFor limit side frames
      else (s.dispatch limit frame).2.outcomesFor limit side frames :=
  List.filter_cons

/-- The frames that are for one store make the same of it when all others are taken away. -/
theorem dispatchAll_filter (limit : Nat) {side : Side} {s t : Stores}
    (agree : AgreeOn side s t) (frames : List (List UInt8)) :
    AgreeOn side (s.dispatchAll limit frames)
        (t.dispatchAll limit (frames.filter (Frame.isFor limit side))) ∧
      s.outcomesFor limit side frames =
        t.outcomes limit (frames.filter (Frame.isFor limit side)) := by
  induction frames generalizing s t with
  | nil => exact ⟨agree, rfl⟩
  | cons frame frames ih =>
    by_cases h : Frame.side? limit frame = some side
    · have own : Frame.isFor limit side frame = true := by simp [Frame.isFor, h]
      obtain ⟨answer, after⟩ := dispatch_own h agree
      obtain ⟨stores, answers⟩ := ih after
      rw [List.filter_cons_of_pos own, outcomesFor_cons, if_pos own, answer, answers]
      exact ⟨stores, rfl⟩
    · have other : ¬ Frame.isFor limit side frame = true := by simp [Frame.isFor, h]
      obtain ⟨stores, answers⟩ := ih ((dispatch_other limit s h).trans agree)
      rw [List.filter_cons_of_neg other, outcomesFor_cons, if_neg other]
      exact ⟨stores, answers⟩

theorem outcomes_frames (limit : Nat) (s : Stores) (frames : List (List UInt8)) :
    (s.outcomes limit frames).map Prod.fst = frames := by
  induction frames generalizing s with
  | nil => rfl
  | cons frame frames ih => exact congrArg (frame :: ·) (ih _)

/-- What the frames `fs`, taken in by the stores `s`, and the frames `gs`, taken in by the
stores `t`, have in common. -/
structure Independent (limit : Nat) (s t : Stores) (fs gs : List (List UInt8)) : Prop where
  /-- One store and the frames that are for it tell what it becomes, -/
  store : ∀ side, AgreeOn side s t →
    fs.filter (Frame.isFor limit side) = gs.filter (Frame.isFor limit side) →
      AgreeOn side (s.dispatchAll limit fs) (t.dispatchAll limit gs)
  /-- and what the outcomes of these frames are, one by one. -/
  outcomes : ∀ side, AgreeOn side s t →
    fs.filter (Frame.isFor limit side) = gs.filter (Frame.isFor limit side) →
      s.outcomesFor limit side fs = t.outcomesFor limit side gs
  /-- Every frame has an outcome. -/
  frames : (s.outcomes limit fs).map Prod.fst = fs
  /-- That of a frame for neither store is the same everywhere, and leaves both stores. -/
  neither : ∀ frame, Frame.side? limit frame = none → ∀ u v : Stores,
    u.dispatch limit frame = ((v.dispatch limit frame).1, u)
  /-- In whatever way the frames for one store and those for the other are merged, and
  whatever stands between them, the same stores become the same. -/
  merged : s = t →
    (∀ side, fs.filter (Frame.isFor limit side) = gs.filter (Frame.isFor limit side)) →
      s.dispatchAll limit fs = t.dispatchAll limit gs

/-- **The stores do not interfere.** Whatever frames come in whatever order, each of the two
stores depends on the frames that are for it alone, and so do the outcomes of these. -/
theorem stores_do_not_interfere (limit : Nat) (s t : Stores) (fs gs : List (List UInt8)) :
    Independent limit s t fs gs := by
  have store : ∀ side, AgreeOn side s t →
      fs.filter (Frame.isFor limit side) = gs.filter (Frame.isFor limit side) →
        AgreeOn side (s.dispatchAll limit fs) (t.dispatchAll limit gs) := by
    intro side agree same
    have hs := (dispatchAll_filter limit agree fs).1
    have ht := (dispatchAll_filter limit (.refl side t) gs).1
    rw [same] at hs
    exact hs.trans ht.symm
  refine ⟨store, ?_, outcomes_frames .., fun _ h => dispatch_neither h, ?_⟩
  · intro side agree same
    rw [(dispatchAll_filter limit agree fs).2, same,
      (dispatchAll_filter limit (.refl side t) gs).2]
  · rintro rfl same
    exact eq_of_agreeOn fun side => store side (.refl side s) (same side)

end Stores

end PipelineWatch
