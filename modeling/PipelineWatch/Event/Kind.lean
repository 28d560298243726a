import PipelineWatch.Record.Document

/-!
The kinds of pipeline events. Each known kind has a marker, the text that stands
for it in documents; a text that is no marker is a kind of its own, so events of
producers that know more kinds are kept as they are.
-/
namespace PipelineWatch

/-- What an event reports. -/
inductive Kind where
  | planRequested
  | planCreated
  | planRevisionSuggested
  | taskAssigned
  | codeGenerated
  | prRequested
  | prCreated
  | prPendingApproval
  | prHumanApproved
  | prHumanRejected
  | memoryStore
  | memoryQuery
  | qaPassed
  | qaFailed
  | securityApproved
  | securityBlocked
  | pipelineConclusion
  | other (marker : String)
deriving DecidableEq, Repr

namespace Kind

/-- The text that stands for the kind. -/
def marker : Kind → String
  | .planRequested => "plan.requested"
  | .planCreated => "plan.created"
  | .planRevisionSuggested => "plan.revision_suggested"
  | .taskAssigned => "task.assigned"
  | .codeGenerated => "code.generated"
  | .prRequested => "pr.requested"
  | .prCreated => "pr.created"
  | .prPendingApproval => "pr.pending_approval"
  | .prHumanApproved => "pr.human_approved"
  | .prHumanRejected => "pr.human_rejected"
  | .memoryStore => "memory.store"
  | .memoryQuery => "memory.query"
  | .qaPassed => "qa.passed"
  | .qaFailed => "qa.failed"
  | .securityApproved => "security.approved"
  | .securityBlocked => "security.blocked"
  | .pipelineConclusion => "pipeline.conclusion"
  | .other marker => marker

/-- The kinds that have a marker of their own. -/
def known : List Kind :=
  [.planRequested, .planCreated, .planRevisionSuggested, .taskAssigned, .codeGenerated,
   .prRequested, .prCreated, .prPendingApproval, .prHumanApproved, .prHumanRejected,
   .memoryStore, .memoryQuery, .qaPassed, .qaFailed, .securityApproved, .securityBlocked,
   .pipelineConclusion]

/-- Whether the kind has a marker of its own. -/
def isKnown : Kind → Bool
  | .other _ => false
  | _ => true

/-- The kind that a text stands for. -/
def ofMarker (s : String) : Kind :=
  (known.find? fun k => k.marker == s).getD (.other s)

/-- The kind that a text names, blanks around it aside. -/
def parse (s : String) : Kind :=
  ofMarker (Text.trim s)

/-- The kind as a document. -/
def toJson (k : Kind) : Json :=
  .text k.marker

/-- The kind that a tree holds. -/
def decode (v : Json) : Except Json.Mismatch Kind :=
  (Record.decodeText v).map ofMarker

/-- The kind that a text holds. -/
def read (s : String) : Except Json.DecodeError Kind :=
  (Record.readDocument (Record.readString "a string") s).map ofMarker

end Kind

end PipelineWatch
