import PipelineWatch.Proofs.Session.Refinement
import PipelineWatch.Proofs.Store.Independence

/-!
Replaying a backlog. As long as no live event comes, nothing is pushed out, and the ids in the
store are those that were there together with those of the backlog. So a backlog whose ids have
all come changes nothing, whatever its records hold and however often they repeat; and a session
to which it is delivered again, over whatever links, keeps its events.
-/
namespace PipelineWatch

/-- Whether the message is a live event. -/
def Message.isLive : Message → Bool
  | .event _ => true
  | _ => false

/-- The id of an event of the backlog. -/
def Message.backlogId? : Message → Option String
  | .history h => some h.id
  | _ => none

namespace Frame

/-- Whether a live event can be read from the frame. -/
def isLive (limit : Nat) (frame : List UInt8) : Bool :=
  match decode limit frame with
  | .ok (.message m) => m.isLive
  | _ => false

/-- The id of the event of the backlog, if one can be read from the frame. -/
def backlogId? (limit : Nat) (frame : List UInt8) : Option String :=
  match decode limit frame with
  | .ok (.message m) => m.backlogId?
  | _ => none

/-- The ids of the events of the backlog that can be read from the frames. -/
def backlogIds (limit : Nat) (frames : List (List UInt8)) : List String :=
  frames.filterMap (backlogId? limit)

theorem mem_backlogIds {limit : Nat} {frames : List (List UInt8)} {id : String} :
    id ∈ backlogIds limit frames ↔ ∃ frame ∈ frames, backlogId? limit frame = some id :=
  List.mem_filterMap

/-- An event of the backlog is for the events. -/
theorem side?_of_backlogId? {limit : Nat} {frame : List UInt8}
    (h : (backlogId? limit frame).isSome) : side? limit frame = some .events := by
  cases decoded : decode limit frame with
  | error e => simp [backlogId?, decoded] at h
  | ok d =>
    cases d with
    | unrecognized type => simp [backlogId?, decoded] at h
    | message m =>
      simp only [backlogId?, decoded] at h
      simp only [side?, decoded]
      cases m with
      | history b => rfl
      | _ => cases h

end Frame

namespace Stores

open Store (Outcome)

variable {limit : Nat} {s t : Stores} {m : Message} {o : Outcome} {frame : List UInt8}
  {fs gs : List (List UInt8)} {id : String}

/-! ### One frame -/

theorem Effect.mem_ids_iff (h : Effect s m o t) (quiet : m.isLive = false) :
    id ∈ t.events.ids ↔ id ∈ s.events.ids ∨ m.backlogId? = some id := by
  cases h with
  | eventInserted e => cases quiet
  | historyAppended h absent =>
    simp [Store.Events.ids, History.toEvent, Message.backlogId?, eq_comm]
  | historyDuplicate h present =>
    refine ⟨.inl, ?_⟩
    rintro (there | same)
    · exact there
    · obtain rfl : h.id = id := Option.some.inj same
      exact present
  | _ => simp [Message.backlogId?]

/-- A message that is no live event and names no id that is not there. -/
theorem Effect.of_known (h : Effect s m o t) (quiet : m.isLive = false)
    (known : ∀ id, m.backlogId? = some id → id ∈ s.events.ids) :
    t.events = s.events ∧ ∀ id, m.backlogId? = some id → o = .historyDuplicate id := by
  cases h with
  | eventInserted e => cases quiet
  | historyAppended h absent => exact absurd (known h.id rfl) absent
  | historyDuplicate h present => exact ⟨rfl, fun id same => congrArg _ (Option.some.inj same)⟩
  | _ => exact ⟨rfl, nofun⟩

theorem FrameEffect.mem_ids_iff (h : FrameEffect s (Frame.decode limit frame) o t)
    (quiet : Frame.isLive limit frame = false) :
    id ∈ t.events.ids ↔ id ∈ s.events.ids ∨ Frame.backlogId? limit frame = some id := by
  unfold Frame.isLive at quiet
  unfold Frame.backlogId?
  generalize Frame.decode limit frame = d at h quiet ⊢
  cases h with
  | message effect => exact effect.mem_ids_iff quiet
  | ignored | discarded => simp

theorem FrameEffect.of_known (h : FrameEffect s (Frame.decode limit frame) o t)
    (quiet : Frame.isLive limit frame = false)
    (known : ∀ id, Frame.backlogId? limit frame = some id → id ∈ s.events.ids) :
    t.events = s.events ∧
      ∀ id, Frame.backlogId? limit frame = some id → o = .historyDuplicate id := by
  unfold Frame.isLive at quiet
  unfold Frame.backlogId? at known ⊢
  generalize Frame.decode limit frame = d at h quiet known ⊢
  cases h with
  | message effect => exact effect.of_known quiet known
  | ignored | discarded => exact ⟨rfl, nofun⟩

/-! ### Many frames -/

theorem dispatchAll_append (limit : Nat) (s : Stores) (fs gs : List (List UInt8)) :
    s.dispatchAll limit (fs ++ gs) = (s.dispatchAll limit fs).dispatchAll limit gs :=
  List.foldl_append

theorem outcomes_append (limit : Nat) (s : Stores) (fs gs : List (List UInt8)) :
    s.outcomes limit (fs ++ gs) =
      s.outcomes limit fs ++ (s.dispatchAll limit fs).outcomes limit gs := by
  induction fs generalizing s with
  | nil => rfl
  | cons frame fs ih => exact congrArg ((frame, (s.dispatch limit frame).1) :: ·) (ih _)

theorem length_outcomes (limit : Nat) (s : Stores) (fs : List (List UInt8)) :
    (s.outcomes limit fs).length = fs.length := by
  rw [← List.length_map, outcomes_frames]

/-- Without live events, the ids are those that were there and those of the backlog. -/
theorem mem_ids_dispatchAll (quiet : ∀ frame ∈ fs, Frame.isLive limit frame = false) :
    id ∈ (s.dispatchAll limit fs).events.ids ↔
      id ∈ s.events.ids ∨ id ∈ Frame.backlogIds limit fs := by
  induction fs generalizing s with
  | nil => simp [dispatchAll, Frame.backlogIds]
  | cons frame fs ih =>
    show id ∈ ((s.dispatch limit frame).2.dispatchAll limit fs).events.ids ↔ _
    rw [ih fun later hl => quiet later (by simp [hl]),
      (dispatch_effect limit s frame).mem_ids_iff (quiet frame (by simp)), or_assoc,
      Frame.mem_backlogIds, Frame.mem_backlogIds]
    simp

/-- A backlog whose ids are all there leaves the events, and each of its events is refused. -/
theorem dispatchAll_of_known (quiet : ∀ frame ∈ gs, Frame.isLive limit frame = false)
    (known : ∀ id ∈ Frame.backlogIds limit gs, id ∈ s.events.ids) :
    (s.dispatchAll limit gs).events = s.events ∧
      ∀ (i : Nat) g id, gs[i]? = some g → Frame.backlogId? limit g = some id →
        (s.outcomes limit gs)[i]? = some (g, Outcome.historyDuplicate id) := by
  induction gs generalizing s with
  | nil => exact ⟨rfl, nofun⟩
  | cons frame gs ih =>
    obtain ⟨events, refused⟩ := (dispatch_effect limit s frame).of_known (quiet frame (by simp))
      fun id named => known id (Frame.mem_backlogIds.mpr ⟨frame, by simp, named⟩)
    -- the first frame leaves the events, so that what is known of the others stays known
    have later : ∀ id ∈ Frame.backlogIds limit gs, id ∈ (s.dispatch limit frame).2.events.ids := by
      intro id hid
      obtain ⟨g, hg, named⟩ := Frame.mem_backlogIds.mp hid
      rw [events]
      exact known id (Frame.mem_backlogIds.mpr ⟨g, by simp [hg], named⟩)
    obtain ⟨same, rest⟩ := ih (fun g hg => quiet g (by simp [hg])) later
    refine ⟨same.trans events, fun i g id found named => ?_⟩
    cases i with
    | zero =>
      obtain rfl : frame = g := by simpa using found
      simp [outcomes, refused id named]
    | succ i => exact rest i g id found named

/-- Events of the backlog leave the approvals. -/
theorem dispatchAll_approvals (backlog : ∀ g ∈ gs, (Frame.backlogId? limit g).isSome) :
    (s.dispatchAll limit gs).approvals = s.approvals := by
  have none : gs.filter (Frame.isFor limit .approvals) = [] := by
    refine List.filter_eq_nil_iff.mpr fun g hg => ?_
    simp [Frame.isFor, Frame.side?_of_backlogId? (backlog g hg)]
  have agree := (dispatchAll_filter limit (.refl .approvals s) gs).1
  rw [none] at agree
  exact agree

end Stores

/-! ### Sessions -/

namespace Session

theorem foldl_takeIn_frames (limit : Nat) (s : Stores) (frames : List (Nat × List UInt8)) :
    (frames.map fun f => Intake.frame f.1 f.2).foldl (Stores.takeIn limit) s =
      s.dispatchAll limit (frames.map Prod.snd) := by
  induction frames generalizing s with
  | nil => rfl
  | cons f frames ih => exact ih _

/-- A session that is delivered nothing but a backlog that it has, over whatever links, is left
with the events that it has. -/
theorem after_events_of_known (s : Session) (later : List Moment)
    {frames : List (Nat × List UInt8)}
    (delivered : s.intake later = frames.map fun f => .frame f.1 f.2)
    (quiet : ∀ frame ∈ frames.map Prod.snd, Frame.isLive s.frameLimit frame = false)
    (known : ∀ id ∈ Frame.backlogIds s.frameLimit (frames.map Prod.snd),
      id ∈ s.stores.events.ids) :
    (s.after later).stores.events = s.stores.events := by
  rw [(takesIn_after s later).stores, delivered, foldl_takeIn_frames]
  exact (Stores.dispatchAll_of_known quiet known).1

end Session

/-! ### Replays -/

namespace Stores

open Store (Outcome)

variable {limit : Nat} {s : Stores} {fs gs : List (List UInt8)}

/-- The frames `gs` behind `fs` are no news. -/
structure Replays (limit : Nat) (s : Stores) (fs gs : List (List UInt8)) : Prop where
  /-- They leave the events as they are after `fs`, -/
  events : (s.dispatchAll limit (fs ++ gs)).events = (s.dispatchAll limit fs).events
  /-- and each event of the backlog among them is refused. -/
  refused : ∀ (i : Nat) g id, gs[i]? = some g → Frame.backlogId? limit g = some id →
    (s.outcomes limit (fs ++ gs))[fs.length + i]? = some (g, Outcome.historyDuplicate id)
  /-- With nothing else among them, they leave both stores as they are. -/
  stores : (∀ g ∈ gs, (Frame.backlogId? limit g).isSome) →
    s.dispatchAll limit (fs ++ gs) = s.dispatchAll limit fs
  /-- A session that has the events that were there after `fs` is left with them when it is
  delivered the frames again, over whatever links. -/
  session : ∀ (session : Session) (later : List Session.Moment) (frames : List (Nat × List UInt8)),
    session.frameLimit = limit → session.stores.events = (s.dispatchAll limit fs).events →
      frames.map Prod.snd = gs → session.intake later = (frames.map fun f => .frame f.1 f.2) →
        (session.after later).stores.events = session.stores.events

theorem replays_of_known (quiet : ∀ frame ∈ fs ++ gs, Frame.isLive limit frame = false)
    (known : ∀ id ∈ Frame.backlogIds limit gs,
      id ∈ s.events.ids ∨ id ∈ Frame.backlogIds limit fs) : Replays limit s fs gs := by
  have there : ∀ id ∈ Frame.backlogIds limit gs, id ∈ (s.dispatchAll limit fs).events.ids :=
    fun id hid =>
      (mem_ids_dispatchAll fun f hf => quiet f (by simp [hf])).mpr (known id hid)
  have quiet' : ∀ frame ∈ gs, Frame.isLive limit frame = false := fun g hg => quiet g (by simp [hg])
  obtain ⟨events, refused⟩ := dispatchAll_of_known quiet' there
  constructor
  case events => rw [dispatchAll_append, events]
  case refused =>
    intro i g id found named
    rw [outcomes_append, List.getElem?_append_right (by rw [length_outcomes]; omega),
      length_outcomes, Nat.add_sub_cancel_left]
    exact refused i g id found named
  case stores =>
    intro backlog
    rw [dispatchAll_append]
    refine eq_of_agreeOn fun side => ?_
    cases side with
    | events => exact events
    | approvals => exact dispatchAll_approvals backlog
  case session =>
    rintro session later frames rfl held rfl delivered
    refine session.after_events_of_known later delivered quiet' fun id hid => ?_
    rw [held]
    exact there id hid

/-- What may come behind the frames `fs` without changing the events. -/
structure Settled (limit : Nat) (s : Stores) (fs : List (List UInt8)) : Prop where
  /-- Any frames but live events, if the ids of the backlog among them are in the store before
  `fs` or are those of events of the backlog in `fs`, -/
  known : ∀ gs, (∀ frame ∈ gs, Frame.isLive limit frame = false) →
    (∀ id ∈ Frame.backlogIds limit gs, id ∈ s.events.ids ∨ id ∈ Frame.backlogIds limit fs) →
      Replays limit s fs gs
  /-- so in particular the frames `fs` again, in any order and any number of times. -/
  again : ∀ gs, gs ⊆ fs → Replays limit s fs gs

/-- **Replaying a backlog changes nothing**, whatever the stores were before it came. -/
theorem backlog_replay_is_noop (limit : Nat) (s : Stores)
    (quiet : ∀ frame ∈ fs, Frame.isLive limit frame = false) : Settled limit s fs := by
  have known : ∀ gs, (∀ frame ∈ gs, Frame.isLive limit frame = false) →
      (∀ id ∈ Frame.backlogIds limit gs, id ∈ s.events.ids ∨ id ∈ Frame.backlogIds limit fs) →
        Replays limit s fs gs := by
    intro gs quiet' hids
    refine replays_of_known (fun frame hframe => ?_) hids
    exact (List.mem_append.mp hframe).elim (quiet frame) (quiet' frame)
  refine ⟨known, fun gs sub => known gs (fun frame hg => quiet frame (sub hg)) fun id hid => ?_⟩
  obtain ⟨g, hg, named⟩ := Frame.mem_backlogIds.mp hid
  exact .inr (Frame.mem_backlogIds.mpr ⟨g, sub hg, named⟩)

/-- The frame of an event of the backlog with this id and this producer. -/
def backlogFrame (id producer : String) : List UInt8 :=
  Text.Utf8.ofString <| Json.compact <| .object
    [("type", .text "history"),
     ("event", .object
       [("event_id", .text id), ("event_type", .text ""), ("producer", .text producer)])]

/-- A store with more events than it has room for. -/
def crowded : Stores where
  events := ⟨0, [⟨"a", .planCreated, "1.0", "", "", "", []⟩]⟩
  approvals := .empty

/-- Events of the store and of the backlog again, with other contents, around what is no message. -/
theorem backlog_replay_is_noop_other_contents :
    (∀ frame ∈ [backlogFrame "b" "x"], Frame.isLive 1000 frame = false) ∧
      Replays 1000 crowded [backlogFrame "b" "x"]
        [backlogFrame "b" "y", [0xff], backlogFrame "a" "z"] := by
  have quiet : ∀ frame ∈ [backlogFrame "b" "x"], Frame.isLive 1000 frame = false := by
    decide +kernel
  exact ⟨quiet, (backlog_replay_is_noop 1000 crowded quiet).known _ (by decide +kernel)
    (by decide +kernel)⟩

end Stores

end PipelineWatch
