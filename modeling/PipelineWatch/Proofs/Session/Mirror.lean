import PipelineWatch.Proofs.Session.Turn
import PipelineWatch.Proofs.Store.Dispatch

/-!
A mirror of a session: what a follower knows who keeps a status and two lists of
ids, and changes them by the updates that it is told. The updates are complete:
after every schedule the mirror is the image of the session.
-/
namespace PipelineWatch.Session

/-- A status, the ids of the events and the ids of the pending approvals. -/
structure Mirror where
  status : Status
  events : List String
  approvals : List String
deriving DecidableEq, Repr

namespace Mirror

/-- What is known before the first update. -/
def initial : Mirror :=
  ⟨.connecting, [], []⟩

/-- The mirror after an update, for a session that keeps `capacity` events when a
live one comes. -/
def follow (capacity : Nat) (m : Mirror) : Update → Mirror
  | .status status => { m with status }
  | .dispatched (.eventInserted id) => { m with events := (id :: m.events).take capacity }
  | .dispatched (.historyAppended id) => { m with events := m.events ++ [id] }
  | .dispatched (.approvalQueued id) => { m with approvals := id :: m.approvals }
  | .dispatched (.approvalResolved id) => { m with approvals := m.approvals.erase id }
  | .dispatched _ => m
  | .eventsCleared => { m with events := [] }
  | .approvalsCleared => { m with approvals := [] }

/-- The mirror of what a journal tells. -/
def ofJournal (capacity : Nat) (journal : List Entry) : Mirror :=
  (journal.filterMap Entry.update?).foldr (fun u m => m.follow capacity u) initial

theorem ofJournal_append (capacity : Nat) (entries journal : List Entry) :
    ofJournal capacity (entries ++ journal) =
      (entries.filterMap Entry.update?).foldr (fun u m => m.follow capacity u)
        (ofJournal capacity journal) := by
  simp [ofJournal, List.filterMap_append, List.foldr_append]

end Mirror

/-- What there is to mirror of a session. -/
def image (s : Session) : Mirror :=
  ⟨s.status, s.stores.events.ids, s.stores.approvals.ids⟩

/-- The updates so far lead a follower to the image of the session. -/
structure Mirrored (capacity : Nat) (s : Session) : Prop where
  capacity_eq : s.stores.events.capacity = capacity
  mirror : Mirror.ofJournal capacity s.journal = s.image

theorem Mirrored.herald {capacity : Nat} {s : Session} (h : s.Mirrored capacity)
    (status : Status) :
    Mirror.ofJournal capacity (s.herald status ++ s.journal) = { s.image with status } := by
  rw [Mirror.ofJournal_append, h.mirror]
  unfold Session.herald
  split
  · rename_i heq
    subst heq
    rfl
  · rfl

theorem Mirrored.reception {capacity : Nat} {s : Session} (h : s.Mirrored capacity)
    (n : Nat) (frame : List UInt8) :
    Mirror.ofJournal capacity (s.reception n frame ++ s.journal) =
      { s with stores := (s.stores.dispatch s.frameLimit frame).2 }.image := by
  have tells := Stores.dispatch_tells s.frameLimit s.stores frame
  rw [Mirror.ofJournal_append, h.mirror]
  unfold Session.reception
  generalize s.stores.dispatch s.frameLimit frame = result at tells
  obtain ⟨outcome, stores⟩ := result
  cases hc : outcome.changed with
  | false =>
    obtain rfl : stores = s.stores := tells.unchanged hc
    simp only [hc]
    rfl
  | true =>
    have he := tells.events
    rw [h.capacity_eq] at he
    simp only [image, he, tells.approvals]
    -- the update of each outcome is the one that `Tells` has read off it
    cases outcome <;> rfl

theorem Mirrored.advance {capacity : Nat} {s t : Session} (ha : Advance s t)
    (h : s.Mirrored capacity) : t.Mirrored capacity := by
  cases ha with
  | attempt => exact ⟨h.capacity_eq, h.herald .connecting⟩
  | refused => exact ⟨h.capacity_eq, h.herald .disconnected⟩
  | connected => exact ⟨h.capacity_eq, h.herald .connected⟩
  | frame n link bytes =>
    have tells := Stores.dispatch_tells s.frameLimit s.stores bytes
    exact ⟨tells.capacity.trans h.capacity_eq, h.reception n bytes⟩
  | lost => exact ⟨h.capacity_eq, h.herald .disconnected⟩
  | ended => exact ⟨h.capacity_eq, h.mirror⟩

theorem Mirrored.unmoved {capacity : Nat} {s t : Session} (hu : Unmoved s t)
    (h : s.Mirrored capacity) : t.Mirrored capacity where
  capacity_eq := by rw [hu.stores, h.capacity_eq]
  mirror := by rw [hu.journal, h.mirror, image, image, hu.status, hu.stores]

theorem Mirrored.clear {capacity : Nat} {s : Session} {clean : Stores → Stores} {u : Update}
    (h : s.Mirrored capacity) (hc : (clean s.stores).events.capacity = s.stores.events.capacity)
    (hu : s.image.follow capacity u = { s with stores := clean s.stores }.image) :
    (s.clear clean u).Mirrored capacity := by
  by_cases live : s.phase = .live
  · rw [clear_of_live live]
    refine ⟨hc.trans h.capacity_eq, ?_⟩
    show (Mirror.ofJournal capacity s.journal).follow capacity u = _
    rw [h.mirror, hu]
    rfl
  · rwa [clear_of_not_live live]

theorem Mirrored.happen {capacity : Nat} {s : Session} (o : Operation)
    (h : s.Mirrored capacity) : (s.happen o).Mirrored capacity := by
  by_cases he : o = .clearEvents
  · subst he
    exact h.clear rfl rfl
  · by_cases ha : o = .clearApprovals
    · subst ha
      exact h.clear rfl rfl
    · exact h.unmoved (happen_unmoved s he ha)

theorem after_mirrored (c : Config) (schedule : List Moment) :
    ((ofConfig c).after schedule).Mirrored c.eventCapacity :=
  after_invariant (P := Mirrored c.eventCapacity) ⟨rfl, rfl⟩ (fun _ o hs => hs.happen o)
    (fun _ _ ha hs => hs.advance ha) schedule

/-- **The updates are a complete log.** A follower who starts from nothing and
takes in all updates told so far, oldest first, knows the status of the session,
the ids of its events and those of its pending approvals, each in order. -/
theorem foldl_sent_eq_image (c : Config) (schedule : List Moment) :
    ((ofConfig c).after schedule).sent.reverse.foldl
        (Mirror.follow c.eventCapacity) .initial =
      ((ofConfig c).after schedule).image := by
  have start : (ofConfig c).Mirrored c.eventCapacity := ⟨rfl, rfl⟩
  have h := after_invariant start (fun _ o hs => hs.happen o) (fun _ _ ha hs => hs.advance ha)
    schedule
  rw [List.foldl_reverse]
  exact h.mirror

end PipelineWatch.Session
