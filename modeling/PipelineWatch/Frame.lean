import PipelineWatch.Message.Basic

/-!
Frames: the bytes of one message. A frame is refused before it is read when it
is too long; one whose type is not known is no failure.
-/
namespace PipelineWatch

namespace Frame

/-- The longest frame that is read, unless another limit is set. -/
def defaultLimit : Nat := 262144

/-- What a frame turns out to be. -/
inductive Decoded where
  | message (message : Message)
  /-- A document with a type that is none of the known ones. -/
  | unrecognized (type : String)
deriving DecidableEq, Repr

/-- Why a frame cannot be decoded. -/
inductive Failure where
  | oversized (size limit : Nat)
  | missingType
  | undecodable (error : Json.DecodeError)
deriving DecidableEq, Repr

/-- The wording of a failure. -/
def Failure.message : Failure → String
  | .oversized size limit => s!"frame exceeds max size ({size} > {limit})"
  | .missingType => "frame has no string `type` field"
  | .undecodable error => "decode error: " ++ error.message

/-- The type of a document, if it is an object with a text there. -/
def type? : Json → Option String
  | .object members =>
    match Json.lookup "type" members with
    | some (.text s) => some s
    | _ => none
  | _ => none

/-- What a document turns out to be as a frame. -/
def ofJson (v : Json) : Except Failure Decoded :=
  match type? v with
  | none => .error .missingType
  | some s =>
    if (Message.Tag.ofName? s).isNone then .ok (.unrecognized s)
    else
      match Message.decode v with
      | .ok m => .ok (.message m)
      | .error e => .error (.undecodable (.tree e))

/-- What the bytes of a frame turn out to be. -/
def decode (limit : Nat) (bytes : List UInt8) : Except Failure Decoded :=
  if limit < bytes.length then .error (.oversized bytes.length limit)
  else
    match Json.read bytes with
    | .ok v => ofJson v
    | .error stop => .error (.undecodable (.ofStop bytes stop.malformed))

/-- The text of a message as a frame. -/
def encode (m : Message) : String :=
  m.toJson.compact

end Frame

end PipelineWatch
