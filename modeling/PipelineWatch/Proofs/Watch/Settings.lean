import PipelineWatch.Watch.Arguments

/-!
An address on the command line and the variables. The address of the command line takes
the place of the one that the variables set, but that one is read first: one that can be
read makes no difference, and one that cannot is the failure.
-/
namespace PipelineWatch

namespace Config

/-- The name of the variable that holds the address. -/
def addressName : String := "ADM_GATEWAY_URL"

/-- The address that the variables set, or the default one. -/
def address (lookup : String → Option String) : Except Failure Url :=
  parseEndpoint ((setting? lookup addressName).getD defaultEndpoint)

/-- The settings with this address and the numbers that the variables hold. -/
def withNumbers (lookup : String → Option String) (endpoint : Url) : Except Failure Config := do
  let config : Config := { endpoint }
  let reconnectDelay ← number lookup "ADM_RECONNECT_DELAY_MS" config.reconnectDelay
  let eventCapacity ← number lookup "ADM_EVENT_CAPACITY" config.eventCapacity
  let frameLimit ← number lookup "ADM_MAX_FRAME_BYTES" config.frameLimit
  .ok { config with reconnectDelay, eventCapacity, frameLimit }

/-- The variable of the address is unset or blank, or holds an address. -/
def Readable (lookup : String → Option String) : Prop :=
  ∀ value, setting? lookup addressName = some value → ∃ u, parseEndpoint value = .ok u

/-- The two environments differ in this variable at most. -/
def DifferAt (name : String) (lookup lookup' : String → Option String) : Prop :=
  ∀ other, other ≠ name → lookup other = lookup' other

/-! ### The variables -/

theorem ofLookup_eq (lookup : String → Option String) :
    ofLookup lookup = address lookup >>= withNumbers lookup := by
  unfold ofLookup ofEndpoint address addressName
  cases parseEndpoint ((setting? lookup "ADM_GATEWAY_URL").getD defaultEndpoint) <;> rfl

theorem exists_of_bind_eq_ok {α β : Type} {x : Except Failure α} {f : α → Except Failure β} {b : β}
    (h : x >>= f = .ok b) : ∃ a, x = .ok a ∧ f a = .ok b := by
  cases x with
  | error e => cases h
  | ok a => exact ⟨a, rfl, h⟩

theorem exists_of_isOk {s : String} (h : (parseEndpoint s).isOk = true) :
    ∃ u, parseEndpoint s = .ok u := by
  generalize parseEndpoint s = parsed at h
  cases parsed with
  | error e => cases h
  | ok u => exact ⟨u, rfl⟩

theorem Readable.address {lookup : String → Option String} (h : Readable lookup) :
    ∃ u, address lookup = .ok u := by
  unfold Config.address
  cases hs : setting? lookup addressName with
  | none => exact exists_of_isOk (s := defaultEndpoint) (by decide +kernel)
  | some value => exact h value hs

theorem number_congr {lookup lookup' : String → Option String} {name : String}
    (h : lookup name = lookup' name) (default : Nat) :
    number lookup name default = number lookup' name default := by
  simp only [number, setting?, h]

theorem withNumbers_congr {lookup lookup' : String → Option String}
    (h : DifferAt addressName lookup lookup') (u : Url) :
    withNumbers lookup u = withNumbers lookup' u := by
  simp only [withNumbers, number_congr (h "ADM_RECONNECT_DELAY_MS" (by decide)),
    number_congr (h "ADM_EVENT_CAPACITY" (by decide)),
    number_congr (h "ADM_MAX_FRAME_BYTES" (by decide))]

/-- The numbers are read without regard to the address. -/
theorem withNumbers_endpoint (lookup : String → Option String) (u v : Url) :
    withNumbers lookup v = (withNumbers lookup u).map fun c => { c with endpoint := v } := by
  simp only [withNumbers]
  cases number lookup "ADM_RECONNECT_DELAY_MS" 3000 with
  | error e => rfl
  | ok delay =>
    cases number lookup "ADM_EVENT_CAPACITY" 100 with
    | error e => rfl
    | ok capacity => cases number lookup "ADM_MAX_FRAME_BYTES" Frame.defaultLimit <;> rfl

end Config

namespace Watch.Arguments

open Config (Readable DifferAt addressName address withNumbers parseEndpoint)

/-! ### The command line -/

/-- The settings with the address of the command line. -/
def override (a : Arguments) (c : Config) : Except Config.Failure Config :=
  (parseEndpoint a.url).map fun endpoint => { c with endpoint }

theorem endpoint_of_override {a : Arguments} {c d : Config} (h : a.override c = .ok d) :
    parseEndpoint a.url = .ok d.endpoint := by
  unfold override at h
  cases hp : parseEndpoint a.url with
  | error e =>
    rw [hp] at h
    cases h
  | ok u =>
    rw [hp] at h
    obtain rfl := Except.ok.inj h
    rfl

theorem config_of_given {a : Arguments} (given : Text.isBlankText a.url = false)
    (lookup : String → Option String) :
    a.config lookup = address lookup >>= fun u => withNumbers lookup u >>= a.override := by
  unfold config override
  rw [Config.ofLookup_eq, given]
  generalize parseEndpoint a.url = url
  cases address lookup with
  | error e => rfl
  | ok u =>
    show (withNumbers lookup u >>= _) = (withNumbers lookup u >>= _)
    cases withNumbers lookup u with
    | error e => rfl
    | ok c => cases url <;> rfl

/-- The address that the variables set is not seen under that of the command line. -/
theorem withNumbers_override (a : Arguments) (lookup : String → Option String) (u v : Url) :
    (withNumbers lookup v >>= a.override) = (withNumbers lookup u >>= a.override) := by
  rw [Config.withNumbers_endpoint lookup u v]
  cases withNumbers lookup u <;> rfl

/-- What the variable of the address does to the settings where the command line gives
an address. -/
structure Overrides (a : Arguments) (lookup lookup' : String → Option String) : Prop where
  /-- Nothing, if it is unset, blank or can be read: -/
  readable : Readable lookup → Readable lookup' → a.config lookup = a.config lookup'
  /-- the address is that of the command line, whatever it is. -/
  endpoint : ∀ c, a.config lookup = .ok c → parseEndpoint a.url = .ok c.endpoint
  /-- One that cannot be read is the failure. -/
  malformed : ∀ value e, Config.setting? lookup addressName = some value →
    parseEndpoint value = .error e → a.config lookup = .error e

/-- **An address on the command line overrides a variable that can be read.** -/
theorem given_address_overrides_readable {a : Arguments} {lookup lookup' : String → Option String}
    (given : Text.isBlankText a.url = false) (differ : DifferAt addressName lookup lookup') :
    Overrides a lookup lookup' := by
  constructor
  · intro h h'
    obtain ⟨u, hu⟩ := h.address
    obtain ⟨u', hu'⟩ := h'.address
    rw [config_of_given given, config_of_given given, hu, hu']
    show (withNumbers lookup u >>= a.override) = (withNumbers lookup' u' >>= a.override)
    rw [Config.withNumbers_congr differ, withNumbers_override]
  · intro c hc
    rw [config_of_given given] at hc
    obtain ⟨u, -, hc⟩ := Config.exists_of_bind_eq_ok hc
    obtain ⟨n, -, hc⟩ := Config.exists_of_bind_eq_ok hc
    exact endpoint_of_override hc
  · intro value e hv he
    have hu : address lookup = .error e := by
      rw [address, hv]
      exact he
    rw [config_of_given given, hu]
    rfl

/-- Variables that hold an address and nothing else. -/
def addressOnly (value name : String) : Option String :=
  if name = addressName then some value else none

theorem differAt_addressOnly (value : String) : DifferAt addressName (fun _ => none)
    (addressOnly value) := fun _ h => (if_neg h).symm

/-- Another address in the variable. -/
theorem given_address_overrides_readable_other :
    Text.isBlankText "ws://127.0.0.1:9/ws" = false ∧
      ({ url := "ws://127.0.0.1:9/ws" } : Arguments).config (fun _ => none) =
        ({ url := "ws://127.0.0.1:9/ws" } : Arguments).config
          (addressOnly "wss://gateway.example:9443/ws") := by
  have given : Text.isBlankText "ws://127.0.0.1:9/ws" = false := by decide +kernel
  have h := given_address_overrides_readable (a := { url := "ws://127.0.0.1:9/ws" }) given
    (differAt_addressOnly "wss://gateway.example:9443/ws")
  refine ⟨given, h.readable (fun value hv => by cases hv) fun value hv => ?_⟩
  obtain rfl : "wss://gateway.example:9443/ws" = value :=
    Option.some.inj ((by decide +kernel : Config.setting? _ addressName = _).symm.trans hv)
  exact Config.exists_of_isOk (by decide +kernel)

/-- A variable that cannot be read makes an address fail that can be. -/
theorem malformed_variable_defeats_given_address :
    ¬ ∀ (a : Arguments) (lookup lookup' : String → Option String),
      Text.isBlankText a.url = false → DifferAt addressName lookup lookup' →
        a.config lookup = a.config lookup' := by
  intro h
  have same := h { url := "ws://127.0.0.1:9/ws" } (fun _ => none) (addressOnly "not a url")
    (by decide +kernel) (differAt_addressOnly _)
  have ok : (({ url := "ws://127.0.0.1:9/ws" } : Arguments).config fun _ => none).isOk = true := by
    decide +kernel
  have failed : (({ url := "ws://127.0.0.1:9/ws" } : Arguments).config
      (addressOnly "not a url")).isOk = false := by
    decide +kernel
  rw [same, failed] at ok
  cases ok

end Watch.Arguments

end PipelineWatch
