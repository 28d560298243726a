import PipelineWatch.Frame
import PipelineWatch.Text.Natural
import PipelineWatch.Url.Basic

/-!
The settings of a session and where they come from: named variables, where blank
ones count as unset.
-/
namespace PipelineWatch

/-- What a session is opened with. -/
structure Config where
  endpoint : Url
  /-- Milliseconds between the end of a link and the next attempt. -/
  reconnectDelay : Nat := 3000
  /-- How many events a live one leaves. -/
  eventCapacity : Nat := 100
  /-- The longest frame that is read, in bytes. -/
  frameLimit : Nat := Frame.defaultLimit
  /-- How many updates wait for a slow reader. -/
  updateBuffer : Nat := 256
deriving DecidableEq, Repr

namespace Config

/-- Why settings are refused. -/
inductive Failure where
  | invalidUrl (value : String) (cause : Url.Failure)
  | invalidNumber (name value : String)
deriving DecidableEq, Repr

/-- The wording of a failure. -/
def Failure.message : Failure → String
  | .invalidUrl value cause => s!"invalid gateway url '{value}': {cause.message}"
  | .invalidNumber name value => s!"invalid value for {name}: '{value}'"

/-- The address of the gateway unless another one is set. -/
def defaultEndpoint : String := "ws://127.0.0.1:8000/ws"

/-- The address that a text names, blanks around it aside. -/
def parseEndpoint (s : String) : Except Failure Url :=
  match Url.parse (Text.trim s) with
  | .ok url => .ok url
  | .error e => .error (.invalidUrl s e)

/-- The default settings with the address that a text names. -/
def ofEndpoint (s : String) : Except Failure Config :=
  (parseEndpoint s).map fun endpoint => { endpoint }

/-- The value of a variable, if there is more to it than blanks. -/
def setting? (lookup : String → Option String) (name : String) : Option String :=
  (lookup name).filter fun value => !Text.isBlankText value

/-- The number that a variable holds, or the default. -/
def number (lookup : String → Option String) (name : String) (default : Nat) :
    Except Failure Nat :=
  match setting? lookup name with
  | none => .ok default
  | some value =>
    match Text.natural? (Text.trim value) with
    | .ok n => .ok n
    | .error _ => .error (.invalidNumber name value)

/-- The settings that the variables hold. -/
def ofLookup (lookup : String → Option String) : Except Failure Config := do
  let config ← ofEndpoint ((setting? lookup "ADM_GATEWAY_URL").getD defaultEndpoint)
  let reconnectDelay ← number lookup "ADM_RECONNECT_DELAY_MS" config.reconnectDelay
  let eventCapacity ← number lookup "ADM_EVENT_CAPACITY" config.eventCapacity
  let frameLimit ← number lookup "ADM_MAX_FRAME_BYTES" config.frameLimit
  .ok { config with reconnectDelay, eventCapacity, frameLimit }

end Config

end PipelineWatch
