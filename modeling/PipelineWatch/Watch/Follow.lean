import PipelineWatch.Session.Subscription
import PipelineWatch.Watch.Line

/-!
The watcher: what it prints as the updates of a session come in. It follows a
selection of the events and keeps the list of plans that it has printed last.
-/
namespace PipelineWatch

/-- What the watcher follows and which plans it knows. -/
structure Watch where
  selection : Plan.Selection
  planIds : List String
deriving DecidableEq, Repr

namespace Watch

open Session (Update Notice)

/-- A watcher that has seen nothing yet. -/
def start (selection : Plan.Selection) : Watch :=
  ⟨selection, []⟩

/-- Looks at the events again. What has changed of the plans and of the selection
is printed. -/
def refresh (w : Watch) (events : List Event) : Watch × List Print :=
  let view := Plan.View.derive events w.selection
  let plans := if view.planIds = w.planIds then [] else [.plans view.planIds]
  let following := if view.selection = w.selection then [] else [.following view.selection]
  (⟨view.selection, view.planIds⟩, plans ++ following)

/-- Takes in that an event has come. It is printed if it is selected. -/
def announce (w : Watch) (events : List Event) (id : String) : Watch × List Print :=
  let (w, prints) := w.refresh events
  match events.find? fun e => e.id == id with
  | some e => (w, if w.selection.selects e then prints ++ [.event e] else prints)
  | none => (w, prints)

/-- Takes in what became of a frame. -/
def applyOutcome (w : Watch) (stores : Stores) : Store.Outcome → Watch × List Print
  | .eventInserted id => w.announce stores.events.list id
  | .historyAppended id => w.announce stores.events.list id
  | .approvalQueued id =>
    match stores.approvals.list.find? fun a => a.id == id with
    | some a => (w, [.approval a])
    | none => (w, [])
  | .approvalResolved id => (w, [.resolved id])
  | _ => (w, [])

/-- Takes in an update, with the stores as they are now. -/
def apply (w : Watch) (stores : Stores) : Update → Watch × List Print
  | .status status => (w, [.status status])
  | .dispatched outcome => w.applyOutcome stores outcome
  | .eventsCleared =>
    let (w, prints) := w.refresh []
    (w, prints ++ [.eventsCleared])
  | .approvalsCleared => (w, [.approvalsCleared])

/-- Takes in a notice. Where updates were lost, the events are looked at again. -/
def take (w : Watch) (stores : Stores) : Notice → Watch × List Print
  | .update update => w.apply stores update
  | .lagged _ => w.refresh stores.events.list
  | .closed => (w, [])

/-- Takes in notices in their order. -/
def takeAll (w : Watch) (stores : Stores) : List Notice → Watch × List Print
  | [] => (w, [])
  | notice :: rest =>
    let (w, prints) := w.take stores notice
    let (w, more) := w.takeAll stores rest
    (w, prints ++ more)

/-- What is printed of a session that is looked at once: its status, the plans,
the selection, the events of the selection, newest first, and the approvals. -/
def settledPrints (s : Session) (selection : Plan.Selection) : List Print :=
  let view := Plan.View.derive s.stores.events.list selection
  [.status s.status, .plans view.planIds, .following view.selection] ++
    (Plan.sortByTime view.events).map .event ++ s.stores.approvals.list.map .approval

/-- The lines of a session that is looked at once. -/
def settled (s : Session) (selection : Plan.Selection) : List String :=
  (settledPrints s selection).map (·.line)

end Watch

end PipelineWatch
