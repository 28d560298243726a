import PipelineWatch.Plan.Selection

/-!
The plans that a list of events speaks of, and what a selection shows of it. All
of it is derived from the events each time it is asked for.
-/
namespace PipelineWatch.Plan

/-- The plans that the events belong to, each once, in the order in which they
first appear. `seen` are those that appeared before, last first. -/
def knownFrom (seen : List String) : List Event → List String
  | [] => seen.reverse
  | e :: es =>
    match e.plan? with
    | some id => if seen.contains id then knownFrom seen es else knownFrom (id :: seen) es
    | none => knownFrom seen es

/-- The plans that the events belong to, each once, in the order in which they
first appear. -/
def known (events : List Event) : List String :=
  knownFrom [] events

/-- How two instants stand to each other when the newest is first. No instant comes
last. -/
def compareNewest : Option Time.Instant → Option Time.Instant → Ordering
  | some a, some b => b.compare a
  | some _, none => .lt
  | none, some _ => .gt
  | none, none => .eq

/-- The events by their timestamps, newest first. Those at one instant keep their
order, and so do those without one, which come last. -/
def sortByTime (events : List Event) : List Event :=
  events.mergeSort fun a b => (compareNewest a.instant? b.instant?).isLE

/-- What is shown of a list of events. -/
structure View where
  planIds : List String
  selection : Selection
  events : List Event
deriving DecidableEq, Repr

/-- What a selection shows of the events, reconciled with the plans they speak
of. -/
def View.derive (events : List Event) (selection : Selection) : View :=
  let planIds := known events
  let selection := selection.reconcile planIds
  ⟨planIds, selection, events.filter selection.selects⟩

end PipelineWatch.Plan
