import PipelineWatch.Session.Basic

/-!
Following a session. Updates wait for the follower up to a limit; if more are
told before it reads, the oldest are lost, and it is told how many.
-/
namespace PipelineWatch.Session

/-- What a follower reads. -/
inductive Notice where
  | update (update : Update)
  /-- So many updates were lost. -/
  | lagged (lost : Nat)
  /-- There is nothing more to come. -/
  | closed
deriving DecidableEq, Repr

/-- How many updates wait: the next power of two from the number asked for. -/
def bufferSize (asked : Nat) : Nat :=
  if asked ≤ 1 then 1 else Nat.pow 2 ((asked - 1).log2 + 1)

/-- A follower, by the number of updates that it has read or lost. -/
structure Subscription where
  seen : Nat
deriving DecidableEq, Repr

/-- A follower from this moment on. -/
def subscribe (s : Session) : Subscription :=
  ⟨s.sent.length⟩

/-- What is read of the updates told since the last time, oldest first. -/
def Subscription.unread (r : Subscription) (size : Nat) (sent : List Update) : List Notice :=
  let new := sent.take (sent.length - r.seen)
  if size < new.length then
    .lagged (new.length - size) :: (new.take size).reverse.map .update
  else new.reverse.map .update

/-- Reads all there is, up to the end once the session is given up. -/
def Subscription.read (r : Subscription) (size : Nat) (s : Session) :
    List Notice × Subscription :=
  (r.unread size s.sent ++ (if s.phase = .gone then [.closed] else []), s.subscribe)

end PipelineWatch.Session
