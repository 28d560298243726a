import PipelineWatch.Message.Basic

/-!
Reading a message straight from a text. The type is checked where it stands; all
else is kept as it is until the type is known, so a mismatch in the body has no
place.
-/
namespace PipelineWatch.Message

open Json Record

/-- Reads a type. -/
def takeTag (input : Bytes) : Except (Stop Fault) (Tag × Bytes) := do
  let (s, rest) ← readString "variant identifier" input
  match tagOfName s with
  | .ok tag => .ok (tag, rest)
  | .error e => .error (.mismatch e rest)

/-- Reads a part that is kept. -/
def takePart (input : Bytes) : Except Halt (Json × Bytes) :=
  (readValue (maxDepth - 1) input).mapError .malformed

/-- Reads members up to the closing bracket, the type apart from the others. Each
of them takes a byte of the text at least, and one of `fuel`. -/
def takeMembers :
    Bytes → Bool → Option Tag → Members → Bytes → Except Halt (Envelope × Bytes)
  | [], _, _, _, rest => .error (.malformed (.next .endInObject rest))
  | _ :: fuel, first, tag, others, input =>
    match nextKey first input with
    | .error stop => .error (.malformed stop)
    | .ok (none, rest) =>
      match tag with
      | some tag => .ok (.members tag others.reverse, rest)
      | none => .error (.inside (.missingField "type") rest)
    | .ok (some key, rest) =>
      if key = "type" ∧ tag.isSome then .error (.inside (.duplicateField key) rest)
      else
        match readColon rest with
        | .error stop => .error (.malformed stop)
        | .ok (_, rest) =>
          if key = "type" then
            match takeTag rest with
            | .ok (tag, rest) => takeMembers fuel false (some tag) others rest
            | .error stop => .error (.placed stop)
          else
            match takePart rest with
            | .ok (v, rest) => takeMembers fuel false tag ((key, v) :: others) rest
            | .error halt => .error halt

/-- Reads the items behind the type up to the closing bracket. -/
def takeItems : Bytes → List Json → Bytes → Except Halt (List Json × Bytes)
  | [], _, rest => .error (.malformed (.next .endInList rest))
  | _ :: fuel, done, input =>
    match nextItem false input with
    | .error stop => .error (.malformed stop)
    | .ok (false, rest) => .ok (done.reverse, rest)
    | .ok (true, rest) =>
      match takePart rest with
      | .ok (v, rest) => takeItems fuel (v :: done) rest
      | .error halt => .error halt

/-- Reads the items of a message, the type first. -/
def takeList (input : Bytes) : Except Halt (Envelope × Bytes) :=
  match nextItem true input with
  | .error stop => .error (.malformed stop)
  | .ok (false, rest) => .error (.inside (.missingField "type") rest)
  | .ok (true, rest) =>
    match takeTag rest with
    | .error stop => .error (.placed stop)
    | .ok (tag, rest) =>
      (takeItems input [] rest).map fun (items, rest) => (.items tag items, rest)

/-- Reads a message from the start of a text, its body not decoded yet. -/
def take (input : Bytes) : Except (Stop Fault) (Envelope × Bytes) :=
  match skipBlanks input with
  | [] => .error (Stop.malformed (.next .endInValue []))
  | b :: rest =>
    if b = Byte.openBrace then
      leave leaveObject (takeMembers (b :: rest) true none [] rest)
    else if b = Byte.openBracket then leave leaveList (takeList rest)
    else .error (wrongTypeAt expected (b :: rest))

/-- The message that a text holds. A mismatch in its body comes before anything
that follows the message. -/
def read (s : String) : Except DecodeError Message :=
  let input := Text.Utf8.ofString s
  match take input with
  | .error stop => .error (.ofStop input stop)
  | .ok (envelope, rest) =>
    match envelope.message with
    | .error e => .error (.tree e)
    | .ok m =>
      match readEnd rest with
      | .ok _ => .ok m
      | .error stop => .error (.ofStop input stop.malformed)

end PipelineWatch.Message
