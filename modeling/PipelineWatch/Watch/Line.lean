import PipelineWatch.Approval
import PipelineWatch.Plan.View
import PipelineWatch.Status

/-!
The lines that the watcher prints. Widths and lengths count characters.
-/
namespace PipelineWatch.Watch.Line

/-- `s` with blanks behind it up to `width` characters. -/
def pad (width : Nat) (s : String) : String :=
  String.ofList (s.toList ++ List.replicate (width - s.length) ' ')

/-- The first characters of an id, which are enough to tell plans apart. -/
def shortId (id : String) : String :=
  String.ofList (id.toList.take 8)

/-- `s` if it has at most `most` characters. Otherwise its last place that is left
shows that something is missing. -/
def ellipsize (most : Nat) (s : String) : String :=
  if s.length ≤ most then s else String.ofList (s.toList.take (most - 1) ++ ['…'])

/-- A text, or a dash for the empty one. -/
def orDash (s : String) : String :=
  if s = "" then "-" else s

/-- The line of a status. -/
def status : Status → String
  | .disconnected => "status disconnected; retrying"
  | other => "status " ++ other.name

/-- The line of an event. -/
def event (e : Event) : String :=
  orDash e.timestamp ++ " " ++ pad 24 e.kind.marker ++ " " ++ pad 18 (ellipsize 18 e.producer) ++
    " plan=" ++ (e.plan?.map shortId).getD "-" ++ " " ++ e.id

/-- The line of a pending approval. -/
def approval (a : Approval) : String :=
  "approval " ++ a.id ++ " pending plan=" ++ orDash (shortId a.planId) ++ " branch=" ++
    orDash a.branch ++ " files=" ++ toString a.files

/-- The list of plans. -/
def planIds (ids : List String) : String :=
  if ids.isEmpty then "-" else ",".intercalate (ids.map shortId)

/-- The line of the known plans. -/
def plans (ids : List String) : String :=
  "plans " ++ planIds ids

/-- The line of the selection that is followed. -/
def following (selection : Plan.Selection) : String :=
  "following " ++ selection.name

/-- The line of an approval that is no longer pending. -/
def resolved (id : String) : String :=
  "approval " ++ id ++ " resolved"

/-- The line of events taken out. -/
def eventsCleared : String := "events cleared"

/-- The line of approvals taken out. -/
def approvalsCleared : String := "approvals cleared"

end PipelineWatch.Watch.Line

namespace PipelineWatch.Watch

/-- Something that the watcher prints. -/
inductive Print where
  | status (status : Status)
  /-- The plans that are known. -/
  | plans (ids : List String)
  /-- The selection that is followed. -/
  | following (selection : Plan.Selection)
  | event (event : Event)
  /-- An approval that is pending. -/
  | approval (approval : Approval)
  /-- An approval that is no longer pending. -/
  | resolved (id : String)
  | eventsCleared
  | approvalsCleared
deriving DecidableEq, Repr

/-- The line that is printed. -/
def Print.line : Print → String
  | .status s => Line.status s
  | .plans ids => Line.plans ids
  | .following selection => Line.following selection
  | .event e => Line.event e
  | .approval a => Line.approval a
  | .resolved id => Line.resolved id
  | .eventsCleared => Line.eventsCleared
  | .approvalsCleared => Line.approvalsCleared

end PipelineWatch.Watch
