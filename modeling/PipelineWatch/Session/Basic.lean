import PipelineWatch.Config
import PipelineWatch.Session.Journal

/-!
A session keeps one link to the gateway. It makes an attempt when it is opened,
reads the frames of a link that opens, and when an attempt or a link fails it
waits for a fixed time and tries again, until it is closed. Attempts meet what is
planned for them.

The session and its task are apart. The owner opens and closes the session at any
moment; the task goes on by turns, from one thing that it waits for to the next,
and what it does at a turn depends on whether the session is still live.
-/
namespace PipelineWatch

namespace Session

/-- What a link yields when it is read. -/
inductive Arrival where
  | frame (bytes : List UInt8)
  | failure
deriving DecidableEq, Repr

/-- A link: what has arrived and not been read, whether the remote side has ended
it, how often it was closed from this side, and whether it was let go. -/
structure Link where
  waiting : List Arrival := []
  ended : Bool := false
  closes : Nat := 0
  released : Bool := false
deriving DecidableEq, Repr

/-- Lets something arrive on a link, unless the link has ended or was let go. -/
def Link.receive (link : Link) (arrivals : List Arrival) : Link :=
  if link.ended || link.released then link
  else { link with waiting := link.waiting ++ arrivals }

/-- What an attempt meets: a link by number, no answer at all, or a refusal. -/
inductive Attempt where
  | link (n : Nat)
  | hang
  | fail
deriving DecidableEq, Repr

/-- What the owner has done with a session. -/
inductive Phase where
  /-- Not opened yet. -/
  | unopened
  | live
  /-- Closed, and still there to be asked. -/
  | closed
  /-- Given up by its owner. -/
  | gone
deriving DecidableEq, Repr

/-- Whether the session takes part in anything. -/
def Phase.isLive : Phase → Bool
  | .live => true
  | _ => false

/-- Whether the session can be asked for its contents. -/
def Phase.isHeld : Phase → Bool
  | .live => true
  | .closed => true
  | _ => false

/-- Closing ends a session that is live. -/
def Phase.close : Phase → Phase
  | .live => .closed
  | phase => phase

/-- A session that was opened can be given up. -/
def Phase.leave : Phase → Phase
  | .unopened => .unopened
  | _ => .gone

/-- What the task of a session waits for. -/
inductive Task where
  /-- There is no task before the session is opened. -/
  | absent
  /-- Its first turn. -/
  | starting
  /-- The answer to an attempt. -/
  | attempting (meets : Attempt)
  /-- What arrives on the link with this number. -/
  | reading (n : Nat)
  /-- The time of the next attempt. -/
  | pausing (due : Nat)
  /-- Nothing any more. -/
  | finished
deriving DecidableEq, Repr

end Session

open Session (Arrival Link Attempt Phase Task Entry)

/-- A session and the network around it. -/
structure Session where
  /-- Milliseconds between a failure and the next attempt. -/
  delay : Nat
  /-- The longest frame that is read. -/
  frameLimit : Nat
  clock : Nat
  links : List Link
  plan : List Attempt
  phase : Phase
  task : Task
  status : Status
  stores : Stores
  /-- What the session has done, newest first. -/
  journal : List Entry
deriving DecidableEq, Repr

namespace Session

/-- A session that is not opened yet, with nothing planned. -/
def idle (delay frameLimit eventCapacity : Nat) : Session where
  delay := delay
  frameLimit := frameLimit
  clock := 0
  links := []
  plan := []
  phase := .unopened
  task := .absent
  status := .initial
  stores := .empty eventCapacity
  journal := []

/-- A session with the given settings, not opened yet. -/
def ofConfig (c : Config) : Session :=
  idle c.reconnectDelay c.frameLimit c.eventCapacity

/-- What followers were told, newest first. -/
def sent (s : Session) : List Update :=
  s.journal.filterMap Entry.update?

/-- When attempts were made, newest first. -/
def attempts (s : Session) : List Nat :=
  s.journal.filterMap Entry.attemptTime?

/-- Enters a deed into the journal. -/
def record (s : Session) (deed : Deed) : Session :=
  { s with journal := ⟨s.clock, deed⟩ :: s.journal }

/-- Tells something to all followers. -/
def tell (s : Session) (u : Update) : Session :=
  s.record (.tell u)

/-- Puts the status, and tells of it if it is another one. -/
def setStatus (s : Session) (status : Status) : Session :=
  if s.status = status then s else { s with status }.tell (.status status)

/-- Takes in a frame of a link, and tells of it if it has changed anything. -/
def deliver (s : Session) (n : Nat) (frame : List UInt8) : Session :=
  let s := s.record (.frame n frame)
  let (outcome, stores) := s.stores.dispatch s.frameLimit frame
  if outcome.changed then { s with stores }.tell (.dispatched outcome) else { s with stores }

/-- Lets `f` happen to a session that is live. There is no session to go on with
if it is not. -/
def whileLive (s : Session) (f : Session → Session) : Option Session :=
  if s.phase.isLive then some (f s) else none

/-- Changes the link with this number, if there is one. -/
def modifyLink (s : Session) (n : Nat) (f : Link → Link) : Session :=
  { s with links := s.links.modify n f }

/-- Lets a link go without a word to the remote side. -/
def release (s : Session) (n : Nat) : Session :=
  s.modifyLink n fun link => { link with released := true, waiting := [] }

/-! ### Turns of the task -/

/-- Ends the task. -/
def finish (s : Session) : Session :=
  { s with task := .finished }

/-- Closes a link from this side, lets it go and ends the task. -/
def hangUp (s : Session) (n : Nat) : Session :=
  (s.modifyLink n fun link =>
    { link with closes := link.closes + 1, released := true, waiting := [] }).finish

/-- Makes an attempt. It meets what is planned next, and a refusal if nothing is. -/
def attempt (s : Session) : Session :=
  match s.whileLive (·.setStatus .connecting) with
  | none => s.finish
  | some s =>
    let s := s.record .attempt
    match s.plan with
    | [] => { s with task := .attempting .fail }
    | meets :: plan => { s with plan, task := .attempting meets }

/-- Waits for the next attempt. -/
def pause (s : Session) : Session :=
  match s.whileLive (·.setStatus .disconnected) with
  | none => s.finish
  | some s => { s with task := .pausing (s.clock + s.delay) }

/-- Begins to read the link that an attempt has met. -/
def connect (s : Session) (n : Nat) : Session :=
  match s.whileLive (·.setStatus .connected) with
  | none => s.hangUp n
  | some s => { s.record (.connect n) with task := .reading n }

/-- Goes on with the answer to an attempt, if it is ever answered. -/
def answer (s : Session) : Attempt → Option Session
  | .link n => some (s.connect n)
  | .hang => none
  | .fail => some s.pause

/-- Takes in what has arrived first on a link. A link that has failed, or that the
remote side has ended behind all that arrived, is let go. -/
def read (s : Session) (n : Nat) : Option Session :=
  match s.links[n]? with
  | none => none
  | some link =>
    match link.waiting with
    | [] => if link.ended then some (s.release n).pause else none
    | .failure :: _ => some (s.release n).pause
    | .frame bytes :: waiting =>
      let s := s.modifyLink n fun link => { link with waiting }
      some ((s.whileLive (·.deliver n bytes)).getD (s.hangUp n))

/-- Goes on with what the task waits for, if that has come. -/
def proceed (s : Session) : Option Session :=
  match s.task with
  | .absent => none
  | .starting => some s.attempt
  | .attempting meets => s.answer meets
  | .reading n => s.read n
  | .pausing due => if due ≤ s.clock then some s.attempt else none
  | .finished => none

/-- Ends the task wherever it stands. -/
def quit (s : Session) : Option Session :=
  match s.task with
  | .absent => none
  | .reading n => some (s.hangUp n)
  | .finished => none
  | _ => some s.finish

/-- One turn of the task, if it has one to make. The task is woken by the end of
the session and by what it waits for; where both have come, `heeds` tells whether
it looks at the end first. -/
def turn (s : Session) (heeds : Bool) : Option Session :=
  if s.phase.isLive then s.proceed
  else if heeds then s.quit
  else s.proceed.or s.quit

/-! ### What happens between turns -/

/-- Opens the session, which may be done once. -/
def start (s : Session) : Session :=
  if s.phase = .unopened then { s with phase := .live, task := .starting } else s

/-- Lets something arrive on the link with this number. -/
def arrive (s : Session) (n : Nat) (arrivals : List Arrival) : Session :=
  s.modifyLink n (·.receive arrivals)

/-- Ends a link from the remote side, behind all that has arrived on it. -/
def endLink (s : Session) (n : Nat) : Session :=
  s.modifyLink n fun link => { link with ended := true }

/-- Lets time pass. -/
def pass (s : Session) (ms : Nat) : Session :=
  { s with clock := s.clock + ms }

/-- Closes the session. -/
def close (s : Session) : Session :=
  { s with phase := s.phase.close }

/-- Closes the session and gives it up. -/
def leave (s : Session) : Session :=
  { s with phase := s.phase.leave }

/-- Takes something out of the stores of a session that is live, and tells of it. -/
def clear (s : Session) (clean : Stores → Stores) (u : Update) : Session :=
  (s.whileLive fun s => { s with stores := clean s.stores }.tell u).getD s

/-- Takes all events out. -/
def clearEvents (s : Session) : Session :=
  s.clear .clearEvents .eventsCleared

/-- Takes all approvals out. -/
def clearApprovals (s : Session) : Session :=
  s.clear .clearApprovals .approvalsCleared

end Session

end PipelineWatch
