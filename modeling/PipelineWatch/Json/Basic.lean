import PipelineWatch.Decimal.Binary64

/-!
Documents as trees. A tree may hold members in any order and may repeat a key;
`normalize` sorts the members of every object by key and keeps the last of those
that share one, which is the form in which two documents are compared.
-/
namespace PipelineWatch

open Decimal (Binary64)

/-- A JSON document. Whole numbers and fractions are different values. -/
inductive Json where
  | null
  | bool (b : Bool)
  | integer (n : Int)
  | float (x : Binary64)
  | text (s : String)
  | array (items : List Json)
  | object (members : List (String × Json))
deriving Repr, Inhabited

namespace Json

/-- The members of an object, in the order of the document. -/
abbrev Members := List (String × Json)

/-- Puts a member among sorted ones. One with the same key that is there already
comes later in the document, and stays. -/
def insertMember (key : String) (value : Json) : Members → Members
  | [] => [(key, value)]
  | (k, v) :: rest =>
    if key < k then (key, value) :: (k, v) :: rest
    else if key = k then (k, v) :: rest
    else (k, v) :: insertMember key value rest

/-- The members by rising key, the last one of each key. -/
def sortMembers (members : Members) : Members :=
  members.foldr (fun m sorted => insertMember m.1 m.2 sorted) []

mutual

/-- The document with the members of every object sorted and each key kept
once. -/
def normalize : Json → Json
  | .array items => .array (normalizeItems items)
  | .object members => .object (sortMembers (normalizeMembers members))
  | other => other

/-- `normalize` on each item. -/
def normalizeItems : List Json → List Json
  | [] => []
  | v :: vs => normalize v :: normalizeItems vs

/-- `normalize` on the value of each member; the members stay where they are. -/
def normalizeMembers : Members → Members
  | [] => []
  | (k, v) :: ms => (k, normalize v) :: normalizeMembers ms

end

/-- A text, or null for none. -/
def ofText? : Option String → Json
  | some s => .text s
  | none => .null

/-- The value of the first member with this key. -/
def lookup (key : String) : Members → Option Json
  | [] => none
  | (k, v) :: rest => if k = key then some v else lookup key rest

end Json

end PipelineWatch
