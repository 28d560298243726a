import PipelineWatch.Digest.Sha256
import PipelineWatch.Event.Kind
import PipelineWatch.Json.Writer
import PipelineWatch.Text.Utf8

/-!
The key of an event that carries none. Producers hash the payload in their own
layout of documents, and then the kind together with that hash, so that equal
events get equal keys wherever the key is derived.
-/
namespace PipelineWatch.Event

/-- The payload that a text holds. -/
def readPayload (s : String) : Except Json.DecodeError Json.Members :=
  Record.readDocument Record.takeObject s

/-- The text of a payload that is hashed: members sorted, in the producers'
layout. -/
def canonicalText (payload : Json) : String :=
  Json.write .producer payload.normalize

/-- The hash of a text, in digits of base sixteen. -/
def hashText (s : String) : String :=
  Digest.Sha256.hex (Text.Utf8.ofString s)

/-- The text of kind and payload that is hashed as the key. -/
def keyText (kind : Kind) (payload : Json.Members) : String :=
  kind.marker ++ ":" ++ hashText (canonicalText (.object payload))

/-- The key of an event of this kind and payload. -/
def deriveKey (kind : Kind) (payload : Json.Members) : String :=
  hashText (keyText kind payload)

end PipelineWatch.Event
