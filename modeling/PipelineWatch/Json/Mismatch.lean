import PipelineWatch.Decimal.Layout
import PipelineWatch.Json.Basic
import PipelineWatch.Json.Syntax
import PipelineWatch.Text.Natural
import PipelineWatch.Text.Quoted

/-!
What can be wrong with a document that is none of the kind asked for. A
`Mismatch` says it of a tree; a `Fault` says what is wrong with a text; and a
`DecodeError` adds the place in the text, where there is one.
-/
namespace PipelineWatch.Json

open Decimal (Binary64 Layout)

/-- What stands where something else was expected. Of containers only the kind
is told. -/
inductive Found where
  | null
  | bool (b : Bool)
  | integer (n : Int)
  | float (x : Binary64)
  | text (s : String)
  | sequence
  | map
deriving DecidableEq, Repr

/-- What a value is found to be. -/
def Found.of : Json → Found
  | .null => .null
  | .bool b => .bool b
  | .integer n => .integer n
  | .float x => .float x
  | .text s => .text s
  | .array _ => .sequence
  | .object _ => .map

/-- How it is told. -/
def Found.describe : Found → String
  | .null => "null"
  | .bool b => s!"boolean `{b}`"
  | .integer n => s!"integer `{n}`"
  | .float x => s!"floating point `{Layout.compact.write x}`"
  | .text s => "string " ++ Text.quoted s
  | .sequence => "sequence"
  | .map => "map"

/-- The ways in which a document is not of the kind asked for. -/
inductive Mismatch where
  | wrongType (found : Found) (expected : String)
  | wrongValue (found : Found) (expected : String)
  | wrongLength (length : Nat) (expected : String)
  | missingField (name : String)
  | duplicateField (name : String)
  | unknownVariant (name : String) (known : List String)
  | neitherObjectNorNull
  | noCount
  | neitherTextNorCount
  | badCount (error : Text.NaturalError)
deriving DecidableEq, Repr

/-- Names between backquotes, divided by commas. -/
def listed (names : List String) : String :=
  ", ".intercalate (names.map fun name => "`" ++ name ++ "`")

/-- The wording of a mismatch. -/
def Mismatch.message : Mismatch → String
  | .wrongType found expected => s!"invalid type: {found.describe}, expected {expected}"
  | .wrongValue found expected => s!"invalid value: {found.describe}, expected {expected}"
  | .wrongLength length expected => s!"invalid length {length}, expected {expected}"
  | .missingField name => s!"missing field `{name}`"
  | .duplicateField name => s!"duplicate field `{name}`"
  | .unknownVariant name known => s!"unknown variant `{name}`, expected one of {listed known}"
  | .neitherObjectNorNull => "expected object or null"
  | .noCount => "invalid count"
  | .neitherTextNorCount => "expected string or number for count"
  | .badCount error => error.message

/-- What is wrong with a text: it is no document, or one of the wrong kind. -/
inductive Fault where
  | malformed (error : SyntaxError)
  | mismatch (error : Mismatch)
deriving DecidableEq, Repr

/-- The wording of a fault. -/
def Fault.message : Fault → String
  | .malformed error => error.message
  | .mismatch error => error.message

/-- Why something could not be decoded. A fault of a text has its place there; a
mismatch of a tree has none. -/
inductive DecodeError where
  | located (fault : Fault) (position : Position)
  | tree (error : Mismatch)
deriving DecidableEq, Repr

/-- The wording of a failure. -/
def DecodeError.message : DecodeError → String
  | .located fault position => position.locate fault.message
  | .tree error => error.message

/-- The failure of a reader of `input`. -/
def DecodeError.ofStop (input : List UInt8) (stop : Stop Fault) : DecodeError :=
  .located stop.cause (.of input stop.left)

/-- A failure to find a document seen as one to find something in particular. -/
def Stop.malformed (stop : Stop SyntaxError) : Stop Fault :=
  ⟨.malformed stop.cause, stop.left⟩

/-- A mismatch seen after the last byte taken. -/
def Stop.mismatch (error : Mismatch) (rest : List UInt8) : Stop Fault :=
  .behind (.mismatch error) rest

end PipelineWatch.Json
