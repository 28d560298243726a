import PipelineWatch.Event.Basic

/-!
Which events are followed: all of them, or those of one plan.
-/
namespace PipelineWatch.Plan

/-- All events, or those of the plan with this id. -/
inductive Selection where
  | all
  | plan (id : String)
deriving DecidableEq, Repr

namespace Selection

/-- The id of the plan, unless all events are selected. -/
def planId? : Selection → Option String
  | .all => none
  | .plan id => some id

/-- How the selection is shown. -/
def name : Selection → String
  | .all => "all"
  | .plan id => id

/-- Whether the event is one of those selected. -/
def selects (s : Selection) (e : Event) : Bool :=
  match s with
  | .all => true
  | .plan id => e.plan? == some id

/-- The selection that a text names. Nothing at all selects everything, as does
the word `all` in letters of any size. -/
def parse (s : String) : Selection :=
  let name := Text.trim s
  if name = "" ∨ Text.toLowerAscii name = "all" then .all else .plan name

/-- The selection that an optional text names. -/
def ofOption : Option String → Selection
  | some s => parse s
  | none => .all

/-- The selection as far as its plan is among those known. Otherwise it moves to
the first of them, or to all events if there is none. -/
def reconcile (s : Selection) (known : List String) : Selection :=
  match s with
  | .all => .all
  | .plan id =>
    if known.contains id then .plan id
    else
      match known with
      | first :: _ => .plan first
      | [] => .all

end Selection

end PipelineWatch.Plan
