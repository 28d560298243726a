import PipelineWatch.Session.Basic

/-!
What can happen to a session, and runs. A schedule has operations and turns of the
task in any order. A run of operations lets the task make all its turns after each
of them, so that the session is idle: it has read all that has arrived, and waits
for an answer, for a link or for the clock.
-/
namespace PipelineWatch.Session

/-- Something that happens to a session or to the network around it. -/
inductive Operation where
  /-- The next attempt meets a new link. -/
  | planLink
  /-- The next attempt is never answered. -/
  | planHang
  /-- The next attempt is refused. -/
  | planFail
  /-- The session is opened. -/
  | start
  | frames (link : Nat) (frames : List (List UInt8))
  /-- A link fails. -/
  | failure (link : Nat)
  /-- The remote side ends a link. -/
  | endLink (link : Nat)
  | wait (ms : Nat)
  | clearEvents
  | clearApprovals
  | close
  /-- The session is closed and given up. -/
  | leave
deriving DecidableEq, Repr

/-- What an operation does at once, before the task makes its next turn. -/
def happen (s : Session) : Operation → Session
  | .planLink =>
    { s with links := s.links ++ [{}], plan := s.plan ++ [.link s.links.length] }
  | .planHang => { s with plan := s.plan ++ [.hang] }
  | .planFail => { s with plan := s.plan ++ [.fail] }
  | .start => s.start
  | .frames link frames => s.arrive link (frames.map .frame)
  | .failure link => s.arrive link [.failure]
  | .endLink link => s.endLink link
  | .wait ms => s.pass ms
  | .clearEvents => s.clearEvents
  | .clearApprovals => s.clearApprovals
  | .close => s.close
  | .leave => s.leave

/-! ### Schedules -/

/-- A moment of a schedule: an operation, or a turn of the task, which passes by if
the task has none to make. -/
inductive Moment where
  | operation (o : Operation)
  | turn (heeds : Bool)
deriving DecidableEq, Repr

/-- The session after a moment. -/
def next (s : Session) : Moment → Session
  | .operation o => s.happen o
  | .turn heeds => (s.turn heeds).getD s

/-- The session after a schedule. -/
def after (s : Session) (schedule : List Moment) : Session :=
  schedule.foldl next s

/-! ### Runs -/

/-- At most `turns` turns of the task. -/
def settleWithin : Nat → Session → Session
  | 0, s => s
  | turns + 1, s =>
    match s.turn true with
    | none => s
    | some s => settleWithin turns s

/-- How many turns the task can make before the clock has to move on: one for each
arrival, and those that make an attempt, meet its answer and lose the link. -/
def turnsAhead (s : Session) : Nat :=
  s.links.foldl (fun count link => count + link.waiting.length) 4

/-- Lets the task make all its turns. -/
def settle (s : Session) : Session :=
  settleWithin s.turnsAhead s

/-- Moves the clock to `target`, with at most `wakes` attempts on the way. -/
def passTime : Nat → Nat → Session → Session
  | 0, target, s => s.pass (target - s.clock)
  | wakes + 1, target, s =>
    match s.task with
    | .pausing due =>
      if due ≤ target then passTime wakes target (s.pass (due - s.clock)).settle
      else s.pass (target - s.clock)
    | _ => s.pass (target - s.clock)

/-- Lets time pass for an idle session. Attempts are at least a delay apart, which
bounds their number. -/
def wait (s : Session) (ms : Nat) : Session :=
  passTime (ms / max s.delay 1 + 1) (s.clock + ms) s

/-- The session after an operation, idle again. -/
def step (s : Session) : Operation → Session
  | .wait ms => s.wait ms
  | operation => (s.happen operation).settle

/-- The session after a run of operations. -/
def run (s : Session) (operations : List Operation) : Session :=
  operations.foldl step s

end PipelineWatch.Session
