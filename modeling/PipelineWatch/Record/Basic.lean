import PipelineWatch.Json.Mismatch

/-!
Records: documents with a fixed list of named fields, each of a shape. A record
stands as an object with its fields as members, in any order and among others,
or as an array with its fields in order. Fields that have a value for their
absence may be missing, in an array only from the end.
-/
namespace PipelineWatch.Record

/-- What the value of a field may be. -/
inductive Shape where
  /-- A text. -/
  | text
  /-- A text, or null for the empty one. -/
  | textOrNull
  /-- A text, or null for none. -/
  | optionalText
  /-- An object, or null for the empty one. -/
  | object
  /-- A number of 64 bits without sign, in digits or as a text, or null for zero. -/
  | count
deriving DecidableEq, Repr

/-- What a field of the shape carries once it is decoded. -/
abbrev Shape.Carrier : Shape → Type
  | .text => String
  | .textOrNull => String
  | .optionalText => Option String
  | .object => Json.Members
  | .count => Nat

/-- A value as a text. -/
def decodeText : Json → Except Json.Mismatch String
  | .text s => .ok s
  | other => .error (.wrongType (.of other) "a string")

/-- A value as the members of an object, sorted, one for each key. -/
def decodeObject (v : Json) : Except Json.Mismatch Json.Members :=
  match v.normalize with
  | .object members => .ok members
  | .null => .ok []
  | _ => .error .neitherObjectNorNull

/-- A value as a count. A text may have blanks around its digits. -/
def decodeCount : Json → Except Json.Mismatch Nat
  | .integer n => if 0 ≤ n then .ok n.toNat else .error .noCount
  | .float _ => .error .noCount
  | .text s =>
    match Text.natural? (Text.trim s) with
    | .ok n => .ok n
    | .error e => .error (.badCount e)
  | .null => .ok 0
  | _ => .error .neitherTextNorCount

/-- What a value carries as a field of the shape. -/
def Shape.decode : (shape : Shape) → Json → Except Json.Mismatch shape.Carrier
  | .text, v => decodeText v
  | .textOrNull, .null => .ok ""
  | .textOrNull, v => decodeText v
  | .optionalText, .null => .ok none
  | .optionalText, v => (decodeText v).map some
  | .object, v => decodeObject v
  | .count, v => decodeCount v

/-- A field by name and shape, and what it carries when it is missing, if it may
be. -/
structure Field where
  name : String
  shape : Shape
  absent : Option shape.Carrier

/-- What the fields of a record carry, in their order. -/
abbrev Row : List Field → Type
  | [] => Unit
  | f :: fs => f.shape.Carrier × Row fs

/-- The fields of a record and the name it goes by in messages. -/
structure Schema where
  name : String
  fields : List Field

/-- How messages name the record. -/
def Schema.expected (s : Schema) : String :=
  "struct " ++ s.name

/-- How messages name the record where the number of fields matters. -/
def Schema.expectedLength (s : Schema) : String :=
  s!"struct {s.name} with {s.fields.length} elements"

/-- The field with this name. -/
def field? (name : String) (fields : List Field) : Option Field :=
  fields.find? fun f => f.name == name

/-- The first fault of the members in their order: a known field that appears
again, or one whose value is not of its shape. `seen` are the known fields
before. -/
def checkMembers (fields : List Field) (seen : List String) :
    Json.Members → Except Json.Mismatch Unit
  | [] => .ok ()
  | (key, v) :: rest =>
    match field? key fields with
    | none => checkMembers fields seen rest
    | some f =>
      if seen.contains key then .error (.duplicateField key)
      else
        match f.shape.decode v with
        | .ok _ => checkMembers fields (key :: seen) rest
        | .error e => .error e

/-- The row that the members hold. -/
def rowOfMembers : (fields : List Field) → Json.Members → Except Json.Mismatch (Row fields)
  | [], _ => .ok ()
  | f :: fs, members => do
    let first ←
      match Json.lookup f.name members, f.absent with
      | some v, _ => f.shape.decode v
      | none, some d => .ok d
      | none, none => .error (.missingField f.name)
    let others ← rowOfMembers fs members
    .ok (first, others)

/-- The row that the items hold, the first of which is number `index`. Items
beyond the last field stay aside. -/
def rowOfItems (expected : String) (index : Nat) :
    (fields : List Field) → List Json → Except Json.Mismatch (Row fields)
  | [], _ => .ok ()
  | f :: fs, v :: vs => do
    let first ← f.shape.decode v
    let others ← rowOfItems expected (index + 1) fs vs
    .ok (first, others)
  | f :: fs, [] => do
    let first ←
      match f.absent with
      | some d => .ok d
      | none => .error (.wrongLength index expected)
    let others ← rowOfItems expected (index + 1) fs []
    .ok (first, others)

/-- Which of two wordings complains about items beyond the last one expected:
that of a tree, or that of a part which was kept aside until its kind was known. -/
inductive Setting where
  | direct
  | deferred
deriving DecidableEq, Repr

/-- What an array of `expected` items was expected to be. -/
def Setting.surplus (setting : Setting) (expected : Nat) : String :=
  match setting with
  | .direct => "fewer elements in array"
  | .deferred =>
    if expected = 1 then "1 element in sequence" else s!"{expected} elements in sequence"

/-- The row that a document holds. -/
def Schema.decode (s : Schema) (setting : Setting) :
    Json → Except Json.Mismatch (Row s.fields)
  | .object members => do
    checkMembers s.fields [] members
    rowOfMembers s.fields members
  | .array items => do
    let row ← rowOfItems s.expectedLength 0 s.fields items
    if s.fields.length < items.length then
      .error (.wrongLength items.length (setting.surplus s.fields.length))
    else .ok row
  | other => .error (.wrongType (.of other) s.expected)

end PipelineWatch.Record
