import PipelineWatch.Session.Operation
import PipelineWatch.Watch.Follow

/-!
A session together with a watcher that has followed it from the start. After
something has happened to the session, the watcher catches up.
-/
namespace PipelineWatch.Watch

/-- A session, how far its updates have been read, and the watcher. -/
structure Live where
  session : Session
  reader : Session.Subscription
  /-- How many updates wait to be read. -/
  size : Nat
  watch : Watch
deriving DecidableEq, Repr

namespace Live

/-- A watcher of a session that it follows from this moment on. -/
def start (session : Session) (updateBuffer : Nat) (selection : Plan.Selection) : Live where
  session := session
  reader := session.subscribe
  size := Session.bufferSize updateBuffer
  watch := .start selection

/-- Lets something happen to the session. The watcher does not know yet. -/
def step (l : Live) (operation : Session.Operation) : Live :=
  { l with session := l.session.step operation }

/-- Reads what was told since the last time: the notices, and the lines that the
watcher prints. One that reads the end of a session prints nothing more. -/
def catchUp (l : Live) : Live × List Session.Notice × List String :=
  let (notices, reader) := l.reader.read l.size l.session
  let (watch, prints) :=
    if l.session.phase = .gone then (l.watch, []) else l.watch.takeAll l.session.stores notices
  ({ l with reader, watch }, notices, prints.map (·.line))

end Live

end PipelineWatch.Watch
