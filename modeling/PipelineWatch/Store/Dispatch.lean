import PipelineWatch.Frame
import PipelineWatch.Store.Approvals
import PipelineWatch.Store.Events

/-!
What a frame does to the stores.
-/
namespace PipelineWatch

/-- The events and the approvals that a session keeps. -/
structure Stores where
  events : Store.Events
  approvals : Store.Approvals
deriving DecidableEq, Repr

/-- Empty stores. -/
def Stores.empty (capacity : Nat) : Stores :=
  ⟨.empty capacity, .empty⟩

namespace Store

/-- What became of a frame. -/
inductive Outcome where
  | eventInserted (id : String)
  | historyAppended (id : String)
  | historyDuplicate (id : String)
  | approvalQueued (id : String)
  | approvalDuplicate (id : String)
  | approvalResolved (id : String)
  | approvalAbsent (id : String)
  /-- A document of a type that is none of the known ones. -/
  | ignored (type : String)
  /-- A frame that cannot be decoded. -/
  | discarded
deriving DecidableEq, Repr

/-- Whether the events have changed. -/
def Outcome.changedEvents : Outcome → Bool
  | .eventInserted _ => true
  | .historyAppended _ => true
  | _ => false

/-- Whether the approvals have changed. -/
def Outcome.changedApprovals : Outcome → Bool
  | .approvalQueued _ => true
  | .approvalResolved _ => true
  | _ => false

/-- Whether anything has changed. -/
def Outcome.changed (o : Outcome) : Bool :=
  o.changedEvents || o.changedApprovals

end Store

open Store (Outcome)

namespace Stores

/-- Takes in a message. -/
def apply (s : Stores) : Message → Outcome × Stores
  | .event e => (.eventInserted e.id, { s with events := s.events.pushLive e })
  | .history h =>
    match s.events.pushHistory h.toEvent with
    | (true, events) => (.historyAppended h.id, { s with events })
    | (false, events) => (.historyDuplicate h.id, { s with events })
  | .approval a =>
    match s.approvals.insert a with
    | (true, approvals) => (.approvalQueued a.id, { s with approvals })
    | (false, approvals) => (.approvalDuplicate a.id, { s with approvals })
  | .approvalDecided a =>
    match s.approvals.remove a.id with
    | (some _, approvals) => (.approvalResolved a.id, { s with approvals })
    | (none, approvals) => (.approvalAbsent a.id, { s with approvals })

/-- Takes in a frame of at most `limit` bytes. -/
def dispatch (limit : Nat) (s : Stores) (frame : List UInt8) : Outcome × Stores :=
  match Frame.decode limit frame with
  | .ok (.message m) => s.apply m
  | .ok (.unrecognized type) => (.ignored type, s)
  | .error _ => (.discarded, s)

/-- Takes all events out. -/
def clearEvents (s : Stores) : Stores :=
  { s with events := s.events.clear }

/-- Takes all approvals out. -/
def clearApprovals (s : Stores) : Stores :=
  { s with approvals := .empty }

end Stores

end PipelineWatch
