import PipelineWatch.Event.Basic
import PipelineWatch.Event.Key

/-!
Rows of the event log, which the gateway sends as the backlog. A row is certain
to have an id and a kind only; `toEvent` fills in the rest.
-/
namespace PipelineWatch

/-- A row of the event log. -/
structure History where
  id : String
  kind : Kind
  version : Option String
  timestamp : Option String
  createdAt : Option String
  producer : String
  key : Option String
  payload : Json.Members
deriving DecidableEq, Repr

namespace History

/-- The fields of a row in a document. -/
def schema : Record.Schema where
  name := "HistoryRecord"
  fields :=
    [⟨"event_id", .text, none⟩,
     ⟨"event_type", .text, none⟩,
     ⟨"version", .optionalText, some none⟩,
     ⟨"timestamp", .optionalText, some none⟩,
     ⟨"created_at", .optionalText, some none⟩,
     ⟨"producer", .textOrNull, some ""⟩,
     ⟨"idempotency_key", .optionalText, some none⟩,
     ⟨"payload", .object, some []⟩]

/-- How a row stands in a document. -/
def format : Record.Format History where
  schema := schema
  ofRow := fun (id, marker, version, timestamp, createdAt, producer, key, payload, ()) =>
    ⟨id, .ofMarker marker, version, timestamp, createdAt, producer, key, payload⟩

/-- The row as a document, its fields in their order. -/
def toJson (h : History) : Json :=
  .object
    [("event_id", .text h.id),
     ("event_type", .text h.kind.marker),
     ("version", Json.ofText? h.version),
     ("timestamp", Json.ofText? h.timestamp),
     ("created_at", Json.ofText? h.createdAt),
     ("producer", .text h.producer),
     ("idempotency_key", Json.ofText? h.key),
     ("payload", .object h.payload)]

/-- The event that the row tells of. An empty version or key counts as none; a
timestamp does not, and where there is none the time of creation stands in. -/
def toEvent (h : History) : Event where
  id := h.id
  kind := h.kind
  version := (h.version.filter (· ≠ "")).getD Event.defaultVersion
  timestamp := (h.timestamp.or h.createdAt).getD ""
  producer := h.producer
  key := (h.key.filter (· ≠ "")).getD (Event.deriveKey h.kind h.payload)
  payload := h.payload

end History

end PipelineWatch
