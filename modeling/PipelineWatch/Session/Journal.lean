import PipelineWatch.Status
import PipelineWatch.Store.Dispatch

/-!
The journal of a session: what it has done and when, newest first. What its
followers were told and when it made attempts is read off the journal.
-/
namespace PipelineWatch.Session

/-- What a session tells those who follow it. -/
inductive Update where
  | status (status : Status)
  | dispatched (outcome : Store.Outcome)
  | eventsCleared
  | approvalsCleared
deriving DecidableEq, Repr

/-- Something that a session does. -/
inductive Deed where
  /-- It makes an attempt to get a link. -/
  | attempt
  /-- It begins to read the link with this number. -/
  | connect (link : Nat)
  /-- It takes in a frame of the link with this number. -/
  | frame (link : Nat) (bytes : List UInt8)
  /-- It tells its followers something. -/
  | tell (update : Update)
deriving DecidableEq, Repr

/-- A deed and its time. -/
structure Entry where
  time : Nat
  deed : Deed
deriving DecidableEq, Repr

/-- What followers are told by the deed, if they are told anything. -/
def Entry.update? (e : Entry) : Option Update :=
  match e.deed with
  | .tell update => some update
  | _ => none

/-- The time of the deed, if it is an attempt. -/
def Entry.attemptTime? (e : Entry) : Option Nat :=
  match e.deed with
  | .attempt => some e.time
  | _ => none

end PipelineWatch.Session
