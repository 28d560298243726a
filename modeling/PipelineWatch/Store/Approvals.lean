import PipelineWatch.Approval

/-!
The approvals that are pending, newest first, one for each id.
-/
namespace PipelineWatch.Store

/-- The pending approvals. -/
structure Approvals where
  list : List Approval
deriving DecidableEq, Repr

namespace Approvals

/-- No approvals. -/
def empty : Approvals :=
  ⟨[]⟩

/-- Whether an approval with this id is pending. -/
def contains (s : Approvals) (id : String) : Bool :=
  s.list.any fun a => a.id == id

/-- Puts an approval in front, unless its id is pending already. The answer tells
whether it was put. -/
def insert (s : Approvals) (a : Approval) : Bool × Approvals :=
  if s.contains a.id then (false, s) else (true, ⟨a :: s.list⟩)

/-- Takes the approval with this id out, if it is pending. -/
def remove (s : Approvals) (id : String) : Option Approval × Approvals :=
  (s.list.find? fun a => a.id == id, ⟨s.list.eraseP fun a => a.id == id⟩)

/-- The ids in order. -/
def ids (s : Approvals) : List String :=
  s.list.map (·.id)

end Approvals

end PipelineWatch.Store
