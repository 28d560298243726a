import PipelineWatch.Proofs.Plan.View
import PipelineWatch.Proofs.Session.Notices
import PipelineWatch.Proofs.Watch.Follow

/-!
What a watcher prints of a frame. It is told no more than the id of what has come, and looks
for that id in the stores, where others may have it too. Read at once, the id leads to the
event or the approval that the frame has brought: a live event and an approval are in front
of all others, and an event of the backlog is stored only where no other one has its id.
-/
namespace PipelineWatch

/-! ### What a frame brings -/

namespace Stores

/-- The frame puts this event into the stores: a live one, or that of a row whose id is not
there. -/
inductive PutsEvent (limit : Nat) (s : Stores) (frame : List UInt8) : Event → Prop where
  | live {e : Event} (decoded : Frame.decode limit frame = .ok (.message (.event e))) :
      PutsEvent limit s frame e
  | row {h : History} (decoded : Frame.decode limit frame = .ok (.message (.history h)))
      (absent : h.id ∉ s.events.ids) : PutsEvent limit s frame h.toEvent

/-- The frame puts this approval into the stores. -/
structure PutsApproval (limit : Nat) (s : Stores) (frame : List UInt8) (a : Approval) : Prop where
  decoded : Frame.decode limit frame = .ok (.message (.approval a))
  absent : a.id ∉ s.approvals.ids

theorem PutsEvent.decodes {limit : Nat} {s : Stores} {frame : List UInt8} {e : Event}
    (h : PutsEvent limit s frame e) : ∃ m, Frame.decode limit frame = .ok (.message m) := by
  cases h with
  | live decoded => exact ⟨_, decoded⟩
  | row decoded absent => exact ⟨_, decoded⟩

/-- The event that a message of this outcome has put into the stores. -/
def putEvent? : Message → Store.Outcome → Option Event
  | .event e, .eventInserted _ => some e
  | .history h, .historyAppended _ => some h.toEvent
  | _, _ => none

/-- The approval that it has put there. -/
def putApproval? : Message → Store.Outcome → Option Approval
  | .approval a, .approvalQueued _ => some a
  | _, _ => none

variable {limit : Nat} {s t : Stores} {frame : List UInt8} {m : Message} {o : Store.Outcome}

theorem message_unique {m' : Message} (h : Frame.decode limit frame = .ok (.message m))
    (h' : Frame.decode limit frame = .ok (.message m')) : m = m' := by
  simpa using h.symm.trans h'

theorem Effect.putsEvent_iff (h : Effect s m o t)
    (decoded : Frame.decode limit frame = .ok (.message m)) (e : Event) :
    PutsEvent limit s frame e ↔ putEvent? m o = some e := by
  constructor
  · intro puts
    cases puts with
    | live decoded' =>
      obtain rfl := message_unique decoded decoded'
      cases h
      rfl
    | row decoded' absent =>
      obtain rfl := message_unique decoded decoded'
      cases h with
      | historyAppended => rfl
      | historyDuplicate h present => exact absurd present absent
  · intro puts
    cases h with
    | eventInserted e' =>
      obtain rfl : e' = e := Option.some.inj puts
      exact .live decoded
    | historyAppended row absent =>
      obtain rfl : row.toEvent = e := Option.some.inj puts
      exact .row decoded absent
    | _ => cases puts

theorem Effect.putsApproval_iff (h : Effect s m o t)
    (decoded : Frame.decode limit frame = .ok (.message m)) (a : Approval) :
    PutsApproval limit s frame a ↔ putApproval? m o = some a := by
  constructor
  · intro puts
    obtain rfl := message_unique decoded puts.decoded
    cases h with
    | approvalQueued => rfl
    | approvalDuplicate a present => exact absurd present puts.absent
  · intro puts
    cases h with
    | approvalQueued a' absent =>
      obtain rfl : a' = a := Option.some.inj puts
      exact ⟨decoded, absent⟩
    | _ => cases puts

/-- The event that is put is the first one with its id. -/
theorem Effect.find?_putEvent (h : Effect s m o t) (room : 1 ≤ s.events.capacity) {e : Event}
    (puts : putEvent? m o = some e) : t.events.list.find? (fun b => b.id == e.id) = some e := by
  cases h with
  | eventInserted e' =>
    obtain rfl : e' = e := Option.some.inj puts
    obtain ⟨rest, hrest⟩ := Nat.exists_eq_add_of_le' room
    show ((e' :: s.events.list).take s.events.capacity).find? _ = _
    rw [hrest, List.take_succ_cons]
    exact List.find?_cons_of_pos (beq_self_eq_true e'.id)
  | historyAppended row absent =>
    obtain rfl : row.toEvent = e := Option.some.inj puts
    have others : s.events.list.find? (fun b => b.id == row.toEvent.id) = none := by
      refine List.find?_eq_none.mpr fun b hb same => absent ?_
      exact List.mem_map.mpr ⟨b, hb, eq_of_beq same⟩
    show (s.events.list ++ [row.toEvent]).find? _ = _
    rw [List.find?_append, others, Option.none_or]
    exact List.find?_cons_of_pos (beq_self_eq_true row.toEvent.id)
  | _ => cases puts

end Stores

namespace Session

/-- The session after a frame has come to it. One that is not live does not take it in. -/
def offer (s : Session) (n : Nat) (frame : List UInt8) : Session :=
  (s.whileLive (·.deliver n frame)).getD s

/-- The frame puts this event into the stores of the session. -/
structure PutsEvent (s : Session) (frame : List UInt8) (e : Event) : Prop where
  live : s.phase = .live
  puts : s.stores.PutsEvent s.frameLimit frame e

/-- The frame puts this approval there. -/
structure PutsApproval (s : Session) (frame : List UInt8) (a : Approval) : Prop where
  live : s.phase = .live
  puts : s.stores.PutsApproval s.frameLimit frame a

theorem bufferSize_pos (asked : Nat) : 1 ≤ bufferSize asked := by
  unfold bufferSize
  split
  · exact Nat.le_refl 1
  · exact Nat.pow_pos (by decide)

/-- A live session takes the frame in, and tells what became of it if it has changed
anything. -/
theorem offer_of_live {s : Session} (live : s.phase = .live) (n : Nat) (frame : List UInt8) :
    (s.offer n frame).stores = (s.stores.dispatch s.frameLimit frame).2 ∧
      (s.offer n frame).sent =
        if (s.stores.dispatch s.frameLimit frame).1.changed then
          .dispatched (s.stores.dispatch s.frameLimit frame).1 :: s.sent
        else s.sent := by
  have taken : s.offer n frame = s.deliver n frame := by
    rw [offer, whileLive_of_live live, Option.getD_some]
  rw [taken, deliver_eq]
  refine ⟨rfl, ?_⟩
  simp only [sent, reception, List.filterMap_append]
  split <;> rfl

theorem offer_of_not_live {s : Session} (live : s.phase ≠ .live) (n : Nat)
    (frame : List UInt8) : s.offer n frame = s := by
  rw [offer, whileLive_of_not_live live, Option.getD_none]

/-- Nothing is read where nothing was told since, -/
theorem unread_subscribe_self (s : Session) (size : Nat) :
    s.subscribe.unread size s.sent = [] :=
  Subscription.unread_eq_nil (Subscription.receive_eq_none_iff.mpr (Nat.le_refl _))

/-- and one update that was told is read as it is. -/
theorem unread_subscribe_cons (s : Session) (asked : Nat) (u : Update) :
    s.subscribe.unread (bufferSize asked) (u :: s.sent) = [.update u] := by
  have new : (u :: s.sent).length - s.subscribe.seen = 1 := by
    show s.sent.length + 1 - s.sent.length = 1
    exact Nat.add_sub_cancel_left ..
  have few : ¬ bufferSize asked < [u].length := Nat.not_lt.mpr (bufferSize_pos asked)
  simp only [Subscription.unread, new, List.take_succ_cons, List.take_zero, if_neg few]
  rfl

end Session

namespace Watch

open Session (bufferSize)
open Store (Outcome)

/-! ### What is printed -/

/-- The event that is printed. -/
def Print.event? : Print → Option Event
  | .event e => some e
  | _ => none

/-- The approval that is printed as pending. -/
def Print.approval? : Print → Option Approval
  | .approval a => some a
  | _ => none

/-- The events that are printed. -/
def printedEvents (prints : List Print) : List Event :=
  prints.filterMap Print.event?

/-- The approvals that are printed as pending. -/
def printedApprovals (prints : List Print) : List Approval :=
  prints.filterMap Print.approval?

/-- The lines of the events that are printed. -/
def eventLines (prints : List Print) : List String :=
  (prints.filter fun p => p.event?.isSome).map (·.line)

/-- The lines of the approvals that are printed as pending. -/
def approvalLines (prints : List Print) : List String :=
  (prints.filter fun p => p.approval?.isSome).map (·.line)

theorem eventLines_eq (prints : List Print) :
    eventLines prints = (printedEvents prints).map Line.event := by
  refine lines_eq (fun p e h => ?_) prints
  cases p with
  | event e' => exact congrArg Line.event (Option.some.inj h)
  | _ => cases h

theorem approvalLines_eq (prints : List Print) :
    approvalLines prints = (printedApprovals prints).map Line.approval := by
  refine lines_eq (fun p a h => ?_) prints
  cases p with
  | approval a' => exact congrArg Line.approval (Option.some.inj h)
  | _ => cases h

/-- A look at the events alone prints neither. -/
theorem printed_refresh (w : Watch) (events : List Event) :
    printedEvents (w.refresh events).2 = [] ∧ printedApprovals (w.refresh events).2 = [] := by
  simp only [refresh]
  split <;> split <;> exact ⟨rfl, rfl⟩

/-- The event that is found is printed if it is selected. -/
theorem announce_of_find? {w : Watch} {events : List Event} {id : String} {e : Event}
    (found : events.find? (fun b => b.id == id) = some e) :
    w.announce events id = ((w.refresh events).1,
      (w.refresh events).2 ++ ([e].filter (w.refresh events).1.selection.selects).map .event) := by
  simp only [announce, found]
  cases h : (w.refresh events).1.selection.selects e <;> simp [h]

variable {s t : Stores} {m : Message} {o : Outcome}

/-- What a watcher makes of what became of a message, by what the message has put into the
stores. -/
structure Tells (w : Watch) (m : Message) (o : Outcome) (t : Stores) : Prop where
  refreshed : ∀ e, Stores.putEvent? m o = some e →
    (w.applyOutcome t o).1 = (w.refresh t.events.list).1
  events : printedEvents (w.applyOutcome t o).2 =
    (Stores.putEvent? m o).toList.filter (w.applyOutcome t o).1.selection.selects
  approvals : printedApprovals (w.applyOutcome t o).2 = (Stores.putApproval? m o).toList

theorem announce_tells {w : Watch} {e : Event} (puts : Stores.putEvent? m o = some e)
    (queues : Stores.putApproval? m o = none)
    (found : t.events.list.find? (fun b => b.id == e.id) = some e)
    (announced : w.applyOutcome t o = w.announce t.events.list e.id) : Tells w m o t := by
  obtain ⟨noEvents, noApprovals⟩ := w.printed_refresh t.events.list
  rw [announce_of_find? found] at announced
  constructor
  case refreshed =>
    intro _ _
    rw [announced]
  case events =>
    rw [announced, puts, Option.toList_some, printedEvents, List.filterMap_append,
      ← printedEvents, noEvents, List.filterMap_map]
    exact List.filterMap_some
  case approvals =>
    rw [announced, queues, printedApprovals, List.filterMap_append, ← printedApprovals,
      noApprovals, List.filterMap_map]
    exact List.filterMap_none _

theorem applyOutcome_tells (w : Watch) (h : Stores.Effect s m o t)
    (room : 1 ≤ s.events.capacity) : Tells w m o t := by
  have found (e : Event) := h.find?_putEvent room (e := e)
  cases h with
  | eventInserted e => exact announce_tells rfl rfl (found e rfl) rfl
  | historyAppended h => exact announce_tells rfl rfl (found h.toEvent rfl) rfl
  | approvalQueued a =>
    have front : (a :: s.approvals.list).find? (fun b => b.id == a.id) = some a :=
      List.find?_cons_of_pos (beq_self_eq_true a.id)
    have printed : w.applyOutcome { s with approvals := ⟨a :: s.approvals.list⟩ }
        (.approvalQueued a.id) = (w, [.approval a]) := by
      simp only [applyOutcome, front]
    constructor
    case refreshed =>
      intro _ puts
      cases puts
    case events =>
      rw [printed]
      rfl
    case approvals =>
      rw [printed]
      rfl
  | _ =>
    refine ⟨?_, rfl, rfl⟩
    intro _ puts
    cases puts

/-! ### Reading at once -/

/-- What a watcher makes of all that a session tells by coming from `s` to `t`, if it has read
all that was told before and reads this at once. So many updates as `asked` wait to be
read. -/
def hear (w : Watch) (asked : Nat) (s t : Session) : Watch × List Print :=
  w.takeAll t.stores (s.subscribe.unread (bufferSize asked) t.sent)

/-- A frame that changes nothing is not told of, and would not be printed if it were. -/
theorem applyOutcome_of_unchanged (w : Watch) (t : Stores) (h : o.changed = false) :
    w.applyOutcome t o = (w, []) := by
  cases o with
  | eventInserted | historyAppended | approvalQueued | approvalResolved => cases h
  | _ => rfl

/-- A watcher that reads at once applies what became of the frame. -/
theorem hear_offer {s : Session} (live : s.phase = .live) (w : Watch) (asked n : Nat)
    (frame : List UInt8) :
    w.hear asked s (s.offer n frame) =
      w.applyOutcome (s.stores.dispatch s.frameLimit frame).2
        (s.stores.dispatch s.frameLimit frame).1 := by
  obtain ⟨stores, sent⟩ := Session.offer_of_live live n frame
  rw [hear, stores, sent]
  split
  · rw [Session.unread_subscribe_cons]
    exact Prod.ext rfl (List.append_nil _)
  · rename_i unchanged
    rw [Session.unread_subscribe_self, applyOutcome_of_unchanged w _ (by simpa using unchanged)]
    rfl

/-- What a watcher prints of a frame that has come to the session `s`, which is `t` then, if it
goes over from `w` to `w'` by what it hears of it. -/
structure Reports (s t : Session) (frame : List UInt8) (w w' : Watch) (prints : List Print) :
    Prop where
  /-- An event that is put into the store is there when the watcher looks at the events. -/
  refreshed : ∀ e, s.PutsEvent frame e →
    e ∈ t.stores.events.list ∧ w' = (w.refresh t.stores.events.list).1
  /-- One event is printed just if the frame puts it into the store and it is selected then, -/
  event : ∀ e, printedEvents prints = [e] ↔ s.PutsEvent frame e ∧ w'.selection.Covers e
  /-- and otherwise none. -/
  noEvent : printedEvents prints = [] ↔ ∀ e, s.PutsEvent frame e → ¬ w'.selection.Covers e
  /-- One approval is printed just if the frame puts it into the store, -/
  approval : ∀ a, printedApprovals prints = [a] ↔ s.PutsApproval frame a
  /-- and otherwise none. -/
  noApproval : printedApprovals prints = [] ↔ ∀ a, ¬ s.PutsApproval frame a
  /-- The lines are those of the events and the approvals that are printed. -/
  eventLines : eventLines prints = (printedEvents prints).map Line.event
  approvalLines : approvalLines prints = (printedApprovals prints).map Line.approval

theorem filter_toList_eq_iff {α : Type} {p : α → Bool} {o : Option α} {x : α} :
    o.toList.filter p = [x] ↔ o = some x ∧ p x = true := by
  cases o with
  | none => simp
  | some y =>
    rw [Option.toList_some, List.filter_cons, Option.some.injEq]
    split
    · rename_i selected
      rw [List.filter_nil, List.cons.injEq, and_iff_left rfl]
      exact ⟨fun same => ⟨same, same ▸ selected⟩, And.left⟩
    · rename_i unselected
      exact iff_of_false nofun fun h => unselected (h.1 ▸ h.2)

/-- What is printed is a report if it is what the frame puts into the stores, as far as that is
selected. -/
theorem reports_of_puts {s t : Session} {frame : List UInt8} {w w' : Watch}
    {prints : List Print} {event : Option Event} {approval : Option Approval}
    (putsEvent : ∀ e, s.PutsEvent frame e ↔ event = some e)
    (putsApproval : ∀ a, s.PutsApproval frame a ↔ approval = some a)
    (refreshed : ∀ e, event = some e →
      e ∈ t.stores.events.list ∧ w' = (w.refresh t.stores.events.list).1)
    (events : printedEvents prints = event.toList.filter w'.selection.selects)
    (approvals : printedApprovals prints = approval.toList) : Reports s t frame w w' prints where
  refreshed := fun e puts => refreshed e ((putsEvent e).mp puts)
  event := by
    intro e
    rw [events, filter_toList_eq_iff, putsEvent, Plan.Selection.selects_iff]
  noEvent := by
    simp only [events, List.filter_eq_nil_iff, Option.mem_toList, putsEvent,
      Plan.Selection.selects_iff]
  approval := by
    intro a
    rw [approvals, Option.toList_eq_singleton_iff, putsApproval]
  noApproval := by
    simp only [approvals, Option.toList_eq_nil_iff, Option.eq_none_iff_forall_ne_some, putsApproval,
      ne_eq]
  eventLines := eventLines_eq prints
  approvalLines := approvalLines_eq prints

/-- Nothing is printed of a frame that puts nothing into the stores. -/
theorem reports_of_none {s t : Session} {frame : List UInt8} {w : Watch}
    (noEvent : ∀ e, ¬ s.PutsEvent frame e) (noApproval : ∀ a, ¬ s.PutsApproval frame a) :
    Reports s t frame w w [] :=
  @reports_of_puts _ _ _ _ _ _ none none (fun e => iff_of_false (noEvent e) nofun)
    (fun a => iff_of_false (noApproval a) nofun) nofun rfl rfl

/-- A frame that is not decoded to a message puts nothing into the stores. -/
theorem reports_of_no_message {s t : Session} {frame : List UInt8} {w : Watch}
    (other : ∀ m, Frame.decode s.frameLimit frame ≠ .ok (.message m)) :
    Reports s t frame w w [] := by
  refine reports_of_none (fun e puts => ?_) fun a puts => other _ puts.puts.decoded
  obtain ⟨m, decoded⟩ := puts.puts.decodes
  exact other m decoded

/-- **A watcher that reads at once prints just what has come**, whatever is in the stores and
whatever it follows. -/
theorem arrival_is_reported {s : Session} (room : 1 ≤ s.stores.events.capacity) (w : Watch)
    (asked n : Nat) (frame : List UInt8) :
    Reports s (s.offer n frame) frame w (w.hear asked s (s.offer n frame)).1
      (w.hear asked s (s.offer n frame)).2 := by
  by_cases live : s.phase = .live
  · obtain ⟨stores, -⟩ := Session.offer_of_live live n frame
    have effect := Stores.dispatch_effect s.frameLimit s.stores frame
    rw [hear_offer live]
    generalize (s.stores.dispatch s.frameLimit frame).1 = o at effect
    generalize (s.stores.dispatch s.frameLimit frame).2 = t at effect stores
    generalize decoded : Frame.decode s.frameLimit frame = d at effect
    cases effect with
    | message effect =>
      have tells := w.applyOutcome_tells effect room
      have putsEvent (e : Event) := effect.putsEvent_iff decoded e
      have putsApproval (a : Approval) := effect.putsApproval_iff decoded a
      refine reports_of_puts (fun e => ⟨fun h => (putsEvent e).mp h.puts, fun h => ?_⟩)
        (fun a => ⟨fun h => (putsApproval a).mp h.puts, fun h => ?_⟩) (fun e h => ?_)
        tells.events tells.approvals
      · exact ⟨live, (putsEvent e).mpr h⟩
      · exact ⟨live, (putsApproval a).mpr h⟩
      · rw [stores]
        exact ⟨List.mem_of_find?_eq_some (effect.find?_putEvent room h), tells.refreshed e h⟩
    | ignored | discarded => exact reports_of_no_message fun m h => by cases decoded.symm.trans h
  · rw [Session.offer_of_not_live live, hear, Session.unread_subscribe_self]
    exact reports_of_none (fun e h => live h.live) fun a h => live h.live

/-! ### An id that was there before -/

/-- An event of this plan. -/
def sample (plan : String) : Event where
  id := "a"
  kind := .planCreated
  version := Event.defaultVersion
  timestamp := ""
  producer := ""
  key := ""
  payload := [("plan_id", .text plan)]

/-- A live session with room for two events, which holds more than that. -/
def crowded : Session :=
  { Session.idle 0 Frame.defaultLimit 2 with
    phase := .live
    stores := ⟨⟨2, [sample "P2", sample "P3", sample "P2"]⟩, .empty⟩ }

/-- A frame with one more event of that id. -/
def sampleFrame : List UInt8 :=
  Text.Utf8.ofString (Frame.encode (.event (sample "P1")))

/-- Of all the events with one id, the one that has just come is printed. -/
theorem arrival_is_reported_shared_id :
    1 ≤ crowded.stores.events.capacity ∧
      Reports crowded (crowded.offer 0 sampleFrame) sampleFrame ⟨.plan "P1", []⟩
        (hear ⟨.plan "P1", []⟩ 256 crowded (crowded.offer 0 sampleFrame)).1
        (hear ⟨.plan "P1", []⟩ 256 crowded (crowded.offer 0 sampleFrame)).2 ∧
      (hear ⟨.plan "P1", []⟩ 256 crowded (crowded.offer 0 sampleFrame)).2 =
        [.plans ["P1", "P2"], .event (sample "P1")] :=
  ⟨by decide, arrival_is_reported (by decide) _ 256 0 sampleFrame, by decide +kernel⟩

end Watch

end PipelineWatch
