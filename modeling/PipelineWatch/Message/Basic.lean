import PipelineWatch.Approval
import PipelineWatch.Event.History

/-!
The messages of the gateway. A message is an object whose `type` tells what the
other member holds, or an array with the type in front of it.
-/
namespace PipelineWatch

/-- What the gateway has to say. -/
inductive Message where
  /-- An event that has just happened. -/
  | event (event : Event)
  /-- A row of the backlog. -/
  | history (row : History)
  /-- A request for a decision. -/
  | approval (approval : Approval)
  /-- A decision on a request. -/
  | approvalDecided (approval : Approval)
deriving DecidableEq, Repr

namespace Message

/-- The types of messages. -/
inductive Tag where
  | event
  | history
  | approval
  | approvalDecided
deriving DecidableEq, Repr

/-- Every type. -/
def Tag.all : List Tag :=
  [.event, .history, .approval, .approvalDecided]

/-- The text that stands for a type. -/
def Tag.name : Tag → String
  | .event => "event"
  | .history => "history"
  | .approval => "approval"
  | .approvalDecided => "approval_decided"

/-- The type that a text stands for. -/
def Tag.ofName? (s : String) : Option Tag :=
  all.find? fun tag => tag.name == s

/-- The type of a message. -/
def tag : Message → Tag
  | .event _ => .event
  | .history _ => .history
  | .approval _ => .approval
  | .approvalDecided _ => .approvalDecided

/-- The member beside the type. -/
def Tag.bodyKey : Tag → String
  | .event => "event"
  | .history => "event"
  | .approval => "approval"
  | .approvalDecided => "approval"

/-- How messages about a type name it. -/
def Tag.expected : Tag → String
  | .event => "struct variant InboundMessage::Event"
  | .history => "struct variant InboundMessage::History"
  | .approval => "struct variant InboundMessage::Approval"
  | .approvalDecided => "struct variant InboundMessage::ApprovalDecided"

/-- The message as a document, its type in front. -/
def toJson (m : Message) : Json :=
  .object
    [("type", .text m.tag.name),
     (m.tag.bodyKey,
      match m with
      | .event e => e.toJson
      | .history h => h.toJson
      | .approval a => a.toJson
      | .approvalDecided a => a.toJson)]

open Json Record

/-- The message of a type whose body a tree holds. -/
def ofBody (v : Json) : Tag → Except Mismatch Message
  | .event => (Event.format.decode .deferred v).map .event
  | .history => (History.format.decode .deferred v).map .history
  | .approval => (Approval.format.decode .deferred v).map .approval
  | .approvalDecided => (Approval.format.decode .deferred v).map .approvalDecided

/-- The message of a type, of the members beside the type. One that cannot be the
body is put aside, one that can must not appear again. -/
def ofMembers (tag : Tag) (found : Option Message) : Members → Except Mismatch Message
  | [] =>
    match found with
    | some m => .ok m
    | none => .error (.missingField tag.bodyKey)
  | (key, v) :: rest =>
    if key = tag.bodyKey then
      if found.isSome then .error (.duplicateField key)
      else
        match ofBody v tag with
        | .ok m => ofMembers tag (some m) rest
        | .error e => .error e
    else ofMembers tag found rest

/-- The message of a type, of the items behind the type. -/
def ofItems (tag : Tag) : List Json → Except Mismatch Message
  | [] => .error (.wrongLength 0 (tag.expected ++ " with 1 element"))
  | v :: rest => do
    let m ← ofBody v tag
    if rest.isEmpty then .ok m
    else .error (.wrongLength (rest.length + 1) (Setting.deferred.surplus 1))

/-- The type that a name stands for in a document. -/
def tagOfName (s : String) : Except Mismatch Tag :=
  match Tag.ofName? s with
  | some tag => .ok tag
  | none => .error (.unknownVariant s (Tag.all.map Tag.name))

/-- The type that a tree holds. -/
def tagOf : Json → Except Mismatch Tag
  | .text s => tagOfName s
  | other => .error (.wrongType (.of other) "variant identifier")

/-- What has been told of a message: its type, and the rest of the document. -/
inductive Envelope where
  | members (tag : Tag) (others : Members)
  | items (tag : Tag) (others : List Json)

/-- The message in an envelope. -/
def Envelope.message : Envelope → Except Mismatch Message
  | .members tag others => ofMembers tag none others
  | .items tag others => ofItems tag others

/-- Takes the type out of the members. `others` are those passed so far, last
first. -/
def envelopeOf (tag : Option Tag) (others : Members) : Members → Except Mismatch Envelope
  | [] =>
    match tag with
    | some tag => .ok (.members tag others.reverse)
    | none => .error (.missingField "type")
  | (key, v) :: rest =>
    if key = "type" then
      if tag.isSome then .error (.duplicateField "type")
      else
        match tagOf v with
        | .ok tag => envelopeOf (some tag) others rest
        | .error e => .error e
    else envelopeOf tag ((key, v) :: others) rest

/-- How messages about something that is none name a message. -/
def expected : String := "internally tagged enum InboundMessage"

/-- The message that a tree holds. -/
def decode : Json → Except Mismatch Message
  | .object members => do (← envelopeOf none [] members).message
  | .array [] => .error (.missingField "type")
  | .array (v :: items) => do (Envelope.items (← tagOf v) items).message
  | other => .error (.wrongType (.of other) expected)

end Message

end PipelineWatch
