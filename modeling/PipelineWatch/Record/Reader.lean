import PipelineWatch.Json.Reader
import PipelineWatch.Json.Reader.Skip
import PipelineWatch.Record.Basic

/-!
Reading a record straight from a text. Every field is checked where it stands,
so of two faults the one that comes first in the text is reported; members that
are no fields are passed over. A fault of a value has its own place. One of the
record as a whole, such as a missing field, is found when the reader is ready to
leave the container, and has the place behind it.
-/
namespace PipelineWatch.Record

open Json

/-- Why the reading of a record ends early: at a place of its own, or with the
rest of the container still in front. -/
inductive Halt where
  | placed (stop : Stop Fault)
  | inside (error : Mismatch) (rest : Bytes)

/-- A text that is no document halts where it is wrong. -/
def Halt.malformed (stop : Stop SyntaxError) : Halt :=
  .placed stop.malformed

/-- The complaint about a value that is not what was expected. A value that
stands by itself is read first, and may turn out to be malformed. -/
def wrongTypeAt (expected : String) : Bytes → Stop Fault
  | [] => Stop.malformed (.next .endInValue [])
  | b :: rest =>
    if b = Byte.openBracket then .mismatch (.wrongType .sequence expected) (b :: rest)
    else if b = Byte.openBrace then .mismatch (.wrongType .map expected) (b :: rest)
    else
      match Json.readScalar (b :: rest) with
      | .ok (v, rest) => .mismatch (.wrongType (.of v) expected) rest
      | .error stop => stop.malformed

/-- Reads a string, or complains about what stands there. -/
def readString (expected : String) (input : Bytes) : Except (Stop Fault) (String × Bytes) :=
  match Json.skipBlanks input with
  | [] => .error (Stop.malformed (.next .endInValue []))
  | b :: rest =>
    if b = Byte.quote then (Json.readText rest).mapError Stop.malformed
    else .error (wrongTypeAt expected (b :: rest))

/-- Reads a string or null. -/
def readStringOrNull (input : Bytes) : Except (Stop Fault) (Json × Bytes) :=
  match Json.skipBlanks input with
  | [] => .error (Stop.malformed (.next .endInValue []))
  | b :: rest =>
    if b = Byte.smallN then (Json.readScalar (b :: rest)).mapError Stop.malformed
    else (readString "a string" (b :: rest)).map fun (s, rest) => (Json.text s, rest)

/-- Reads the value of a field and checks its shape. -/
def Shape.read (shape : Shape) (input : Bytes) : Except Halt (Json × Bytes) :=
  match shape with
  | .text =>
    match readString "a string" input with
    | .ok (s, rest) => .ok (Json.text s, rest)
    | .error stop => .error (.placed stop)
  | .textOrNull => (readStringOrNull input).mapError .placed
  | .optionalText => (readStringOrNull input).mapError .placed
  | .object => document input
  | .count => document input
where
  document (input : Bytes) : Except Halt (Json × Bytes) :=
    match Json.readValue (Json.maxDepth - 1) input with
    | .ok (v, rest) =>
      match shape.decode v with
      | .ok _ => .ok (v, rest)
      | .error e => .error (.inside e rest)
    | .error stop => .error (.malformed stop)

/-- Reads the members of a record up to the closing bracket. `found` are the
fields read before, last first. Each member takes a byte of the text at least,
and one of `fuel`. -/
def readFields (fields : List Field) :
    Bytes → Bool → Json.Members → Bytes → Except Halt (Json.Members × Bytes)
  | [], _, _, rest => .error (.malformed (.next .endInObject rest))
  | _ :: fuel, first, found, input =>
    match Json.nextKey first input with
    | .error stop => .error (.malformed stop)
    | .ok (none, rest) => .ok (found.reverse, rest)
    | .ok (some key, rest) =>
      match field? key fields with
      | some f =>
        if (Json.lookup key found).isSome then .error (.inside (.duplicateField key) rest)
        else
          match Json.readColon rest with
          | .error stop => .error (.malformed stop)
          | .ok (_, rest) =>
            match f.shape.read rest with
            | .ok (v, rest) => readFields fields fuel false ((key, v) :: found) rest
            | .error halt => .error halt
      | none =>
        match Json.readColon rest with
        | .error stop => .error (.malformed stop)
        | .ok (_, rest) =>
          match Json.skipValue rest with
          | .ok rest => readFields fields fuel false found rest
          | .error stop => .error (.malformed stop)

/-- Reads the items of a record, one for each field, as far as there are any. -/
def readFieldItems (first : Bool) (input : Bytes) :
    List Field → Except Halt (List Json × Bytes)
  | [] => .ok ([], input)
  | f :: fs =>
    match Json.nextItem first input with
    | .error stop => .error (.malformed stop)
    | .ok (false, rest) => .ok ([], rest)
    | .ok (true, rest) =>
      match f.shape.read rest with
      | .ok (v, rest) =>
        match readFieldItems false rest fs with
        | .ok (vs, rest) => .ok (v :: vs, rest)
        | .error halt => .error halt
      | .error halt => .error halt

/-- Leaves an object: the text behind it, or what is wrong, and the text that is
left in either case. -/
def leaveObject (input : Bytes) : Option (Stop SyntaxError) × Bytes :=
  match Json.skipBlanks input with
  | [] => (some (.next .endInObject []), [])
  | b :: rest =>
    if b = Byte.closeBrace then (none, rest)
    else if b = Byte.comma then (some (.next .trailingComma (b :: rest)), b :: rest)
    else (some (.next .trailingCharacters (b :: rest)), b :: rest)

/-- Leaves a list in the same way. A comma is taken before the complaint. -/
def leaveList (input : Bytes) : Option (Stop SyntaxError) × Bytes :=
  match Json.skipBlanks input with
  | [] => (some (.next .endInList []), [])
  | b :: rest =>
    if b = Byte.closeBracket then (none, rest)
    else if b = Byte.comma then
      match Json.skipBlanks rest with
      | [] => (some (.next .trailingCharacters []), [])
      | b :: rest =>
        if b = Byte.closeBracket then (some (.next .trailingComma (b :: rest)), b :: rest)
        else (some (.next .trailingCharacters (b :: rest)), b :: rest)
    else (some (.next .trailingCharacters (b :: rest)), b :: rest)

/-- Leaves a container after its parts were read. A fault of the record as a
whole takes its place from where the container is left. -/
def leave {α : Type} (exit : Bytes → Option (Stop SyntaxError) × Bytes) :
    Except Halt (α × Bytes) → Except (Stop Fault) (α × Bytes)
  | .ok (a, rest) =>
    match exit rest with
    | (none, rest) => .ok (a, rest)
    | (some stop, _) => .error stop.malformed
  | .error (.placed stop) => .error stop
  | .error (.inside error rest) => .error (.mismatch error (exit rest).2)

/-- The row of what was read, with the text behind it. -/
def gather {α β : Type} (row : α → Except Mismatch β) :
    Except Halt (α × Bytes) → Except Halt (β × Bytes)
  | .ok (parts, rest) =>
    match row parts with
    | .ok r => .ok (r, rest)
    | .error e => .error (.inside e rest)
  | .error halt => .error halt

/-- Reads a record. -/
def Schema.read (s : Schema) (input : Bytes) : Except (Stop Fault) (Row s.fields × Bytes) :=
  match Json.skipBlanks input with
  | [] => .error (Stop.malformed (.next .endInValue []))
  | b :: rest =>
    if b = Byte.openBrace then
      leave leaveObject <| gather (rowOfMembers s.fields) <|
        readFields s.fields (b :: rest) true [] rest
    else if b = Byte.openBracket then
      leave leaveList <| gather (rowOfItems s.expectedLength 0 s.fields) <|
        readFieldItems true rest s.fields
    else .error (wrongTypeAt s.expected (b :: rest))

end PipelineWatch.Record
