import PipelineWatch.Event.Basic

/-!
The events at hand, newest first. A live event goes in front and the list is cut
to its capacity; one from the backlog goes to the back, once for each id, and
pushes nothing out.
-/
namespace PipelineWatch.Store

/-- The events and how many of them a live one leaves. -/
structure Events where
  capacity : Nat
  list : List Event
deriving DecidableEq, Repr

namespace Events

/-- No events. -/
def empty (capacity : Nat) : Events :=
  ⟨capacity, []⟩

/-- Whether an event with this id is there. -/
def contains (s : Events) (id : String) : Bool :=
  s.list.any fun e => e.id == id

/-- Puts a live event in front. It may share its id with others. -/
def pushLive (s : Events) (e : Event) : Events :=
  { s with list := (e :: s.list).take s.capacity }

/-- Puts an event of the backlog at the back, unless its id is there already.
The answer tells whether it was put. -/
def pushHistory (s : Events) (e : Event) : Bool × Events :=
  if s.contains e.id then (false, s)
  else (true, { s with list := s.list ++ [e] })

/-- Takes all events out. -/
def clear (s : Events) : Events :=
  { s with list := [] }

/-- The ids in order. -/
def ids (s : Events) : List String :=
  s.list.map (·.id)

end Events

end PipelineWatch.Store
