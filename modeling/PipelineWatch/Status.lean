import PipelineWatch.Record.Document
import PipelineWatch.Text.LetterCase

/-!
The status of the connection to the gateway.
-/
namespace PipelineWatch

/-- Whether there is a connection, or the way there. -/
inductive Status where
  | connecting
  | connected
  | disconnected
deriving DecidableEq, Repr

namespace Status

/-- The status of a session that has just been opened. -/
def initial : Status := .connecting

/-- The name of a status. -/
def name : Status → String
  | .connecting => "connecting"
  | .connected => "connected"
  | .disconnected => "disconnected"

/-- Every status. -/
def all : List Status :=
  [.connecting, .connected, .disconnected]

/-- The status of this name. -/
def ofName? (s : String) : Option Status :=
  all.find? fun status => status.name == s

/-- A text that names no status, blanks and the size of letters put aside. -/
structure Unknown where
  name : String
deriving DecidableEq, Repr

/-- The wording of the failure. -/
def Unknown.message (u : Unknown) : String :=
  "Unknown connection status: " ++ u.name

/-- The status that a text names. Blanks around it and the size of its letters do
not matter. -/
def parse (s : String) : Except Unknown Status :=
  let name := Text.toLower (Text.trim s)
  match ofName? name with
  | some status => .ok status
  | none => .error ⟨name⟩

/-- Whether there is a connection. -/
def isConnected (s : Status) : Bool :=
  s == .connected

/-- The status as a document. -/
def toJson (s : Status) : Json :=
  .text s.name

open Json Record

/-- The status of a name in a document. -/
def ofName (s : String) : Except Mismatch Status :=
  match ofName? s with
  | some status => .ok status
  | none => .error (.unknownVariant s (all.map name))

/-- The status that a tree holds: its name, or an object with the name as its only
key and nothing at it. -/
def decode : Json → Except Mismatch Status
  | .text s => ofName s
  | .object [(key, v)] => do
    let status ← ofName key
    match v with
    | .null => .ok status
    | other => .error (.wrongType (.of other) "unit")
  | .object _ => .error (.wrongValue .map "map with a single key")
  | other => .error (.wrongType (.of other) "string or map")

/-- Reads the null at the name of a status. -/
def takeUnit (input : Bytes) : Except (Stop Fault) Bytes :=
  match skipBlanks input with
  | [] => .error (Stop.malformed (.next .endInValue []))
  | b :: rest =>
    if b = Byte.smallN then
      ((readScalar (b :: rest)).mapError Stop.malformed).map (·.2)
    else .error (wrongTypeAt "unit" (b :: rest))

/-- The status of a name that ends in front of `rest`. -/
def ofNameAt (name : String) (rest : Bytes) : Except (Stop Fault) Status :=
  match ofName name with
  | .ok status => .ok status
  | .error e => .error (.mismatch e rest)

/-- Reads a status that is nothing but its name. -/
def takeName (input : Bytes) : Except (Stop Fault) (Status × Bytes) := do
  let (name, rest) ← readString "variant identifier" input
  .ok (← ofNameAt name rest, rest)

/-- Reads what follows the opening bracket of a status in an object. -/
def takeKeyed (input : Bytes) : Except (Stop Fault) (Status × Bytes) := do
  let (key, rest) ← (nextKey true input).mapError Stop.malformed
  match key with
  | none => .error (Stop.malformed (.next .expectedValue rest))
  | some name =>
    let status ← ofNameAt name rest
    let (_, rest) ← (readColon rest).mapError Stop.malformed
    let rest ← takeUnit rest
    match skipBlanks rest with
    | [] => .error (Stop.malformed (.behind .endInObject []))
    | b :: rest =>
      if b = Byte.closeBrace then .ok (status, rest)
      else .error (Stop.malformed (.behind .expectedValue (b :: rest)))

/-- Reads a status from the start of a text. -/
def take (input : Bytes) : Except (Stop Fault) (Status × Bytes) :=
  match skipBlanks input with
  | [] => .error (Stop.malformed (.next .endInValue []))
  | b :: rest =>
    if b = Byte.openBrace then takeKeyed rest
    else if b = Byte.quote then takeName (b :: rest)
    else .error (Stop.malformed (.next .expectedValue (b :: rest)))

/-- The status that a text holds. -/
def read (s : String) : Except DecodeError Status :=
  readDocument take s

end Status

end PipelineWatch
