import PipelineWatch.Event.Kind
import PipelineWatch.Json.Equality
import PipelineWatch.Json.Writer
import PipelineWatch.Record.Document
import PipelineWatch.Time.Instant

/-!
Events of the monitored pipeline, as the gateway sends them.
-/
namespace PipelineWatch

/-- One occurrence in the pipeline. The payload is an object with its members
sorted; `key` tells occurrences apart where ids do not. -/
structure Event where
  id : String
  kind : Kind
  version : String
  timestamp : String
  producer : String
  key : String
  payload : Json.Members
deriving DecidableEq, Repr

namespace Event

/-- The version of an event that names none. -/
def defaultVersion : String := "1.0"

/-- The fields of an event in a document. -/
def schema : Record.Schema where
  name := "StreamEvent"
  fields :=
    [⟨"event_id", .text, none⟩,
     ⟨"event_type", .text, none⟩,
     ⟨"version", .text, some defaultVersion⟩,
     ⟨"timestamp", .text, none⟩,
     ⟨"producer", .text, none⟩,
     ⟨"idempotency_key", .text, some ""⟩,
     ⟨"payload", .object, some []⟩]

/-- How an event stands in a document. -/
def format : Record.Format Event where
  schema := schema
  ofRow := fun (id, marker, version, timestamp, producer, key, payload, ()) =>
    ⟨id, .ofMarker marker, version, timestamp, producer, key, payload⟩

/-- The event as a document, its fields in their order. -/
def toJson (e : Event) : Json :=
  .object
    [("event_id", .text e.id),
     ("event_type", .text e.kind.marker),
     ("version", .text e.version),
     ("timestamp", .text e.timestamp),
     ("producer", .text e.producer),
     ("idempotency_key", .text e.key),
     ("payload", .object e.payload)]

/-- The text in the payload at `name`, unless it is empty. -/
def payloadText? (e : Event) (name : String) : Option String :=
  match Json.lookup name e.payload with
  | some (.text s) => if s = "" then none else some s
  | _ => none

/-- The instant of the timestamp, if it names one. -/
def instant? (e : Event) : Option Time.Instant :=
  Time.Instant.parse? e.timestamp

/-- The plan that the event belongs to: the one that it names, or else the one
that this plan replaces. -/
def plan? (e : Event) : Option String :=
  (e.payloadText? "plan_id").or (e.payloadText? "original_plan_id")

end Event

end PipelineWatch
