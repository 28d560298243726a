import PipelineWatch.Json.Equality
import PipelineWatch.Json.Writer
import PipelineWatch.Record.Document

/-!
Pull requests that wait for a human decision.
-/
namespace PipelineWatch

/-- A request for a decision on a pull request. -/
structure Approval where
  id : String
  planId : String
  branch : String
  files : Nat
  reasoning : String
  context : Json.Members
  decision : Option String
  reviewer : Option String
deriving DecidableEq, Repr

namespace Approval

/-- The fields of a request in a document. -/
def schema : Record.Schema where
  name := "ApprovalRequest"
  fields :=
    [⟨"approval_id", .text, none⟩,
     ⟨"plan_id", .textOrNull, some ""⟩,
     ⟨"branch_name", .textOrNull, some ""⟩,
     ⟨"files_count", .count, some (0 : Nat)⟩,
     ⟨"security_reasoning", .textOrNull, some ""⟩,
     ⟨"pr_context", .object, some []⟩,
     ⟨"decision", .optionalText, some none⟩,
     ⟨"reviewer", .optionalText, some none⟩]

/-- How a request stands in a document. -/
def format : Record.Format Approval where
  schema := schema
  ofRow := fun (id, planId, branch, files, reasoning, context, decision, reviewer, ()) =>
    ⟨id, planId, branch, files, reasoning, context, decision, reviewer⟩

/-- The request as a document, its fields in their order. -/
def toJson (a : Approval) : Json :=
  .object
    [("approval_id", .text a.id),
     ("plan_id", .text a.planId),
     ("branch_name", .text a.branch),
     ("files_count", .integer a.files),
     ("security_reasoning", .text a.reasoning),
     ("pr_context", .object a.context),
     ("decision", Json.ofText? a.decision),
     ("reviewer", Json.ofText? a.reviewer)]

end Approval

end PipelineWatch
