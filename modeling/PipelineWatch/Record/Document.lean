import PipelineWatch.Record.Reader
import PipelineWatch.Text.Utf8

/-!
Whole documents that hold one value of a given kind, read from their text. The
value is decoded as the text is read, or after the text has become a tree; both
accept the same fields, and only the first one knows the place of a mismatch.
-/
namespace PipelineWatch.Record

open Json

/-- Reads all of `s` with a reader of one value. Nothing may follow the value. -/
def readDocument {α : Type} (reader : Bytes → Except (Stop Fault) (α × Bytes)) (s : String) :
    Except DecodeError α :=
  let input := Text.Utf8.ofString s
  match reader input with
  | .error stop => .error (.ofStop input stop)
  | .ok (a, rest) =>
    match readEnd rest with
    | .ok _ => .ok a
    | .error stop => .error (.ofStop input stop.malformed)

/-- The tree that `s` holds, normalized. -/
def readTreeText (s : String) : Except DecodeError Json :=
  let input := Text.Utf8.ofString s
  match Json.read input with
  | .ok v => .ok v
  | .error stop => .error (.ofStop input stop.malformed)

/-- Reads `s` as a tree and decodes that. -/
def decodeDocument {α : Type} (decode : Json → Except Mismatch α) (s : String) :
    Except DecodeError α :=
  match readTreeText s with
  | .error e => .error e
  | .ok v =>
    match decode v with
    | .ok a => .ok a
    | .error e => .error (.tree e)

/-- Reads an object, with its members sorted. -/
def takeObject (input : Bytes) : Except (Stop Fault) (Members × Bytes) :=
  match skipBlanks input with
  | [] => .error (Stop.malformed (.next .endInValue []))
  | b :: rest =>
    if b = Byte.openBrace then
      match readMembers (readValue (maxDepth - 1)) (b :: rest) true [] rest with
      | .ok (members, rest) => .ok (sortMembers (normalizeMembers members), rest)
      | .error stop => .error stop.malformed
    else .error (wrongTypeAt "a map" (b :: rest))

/-- How records of one kind stand in documents: their fields, and what becomes of
them. -/
structure Format (α : Type) where
  schema : Schema
  ofRow : Row schema.fields → α

namespace Format

variable {α : Type} (f : Format α)

/-- The record that a tree holds. -/
def decode (setting : Setting) (v : Json) : Except Mismatch α :=
  (f.schema.decode setting v).map f.ofRow

/-- Reads a record from the start of a text. -/
def take (input : Bytes) : Except (Stop Fault) (α × Bytes) :=
  (f.schema.read input).map fun (row, rest) => (f.ofRow row, rest)

/-- The record that a text holds. -/
def read (s : String) : Except DecodeError α :=
  readDocument f.take s

end Format

end PipelineWatch.Record
