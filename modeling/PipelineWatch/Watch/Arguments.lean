import PipelineWatch.Config
import PipelineWatch.Plan.Selection

/-!
The command line of the watcher, and the settings that it and the environment
give together. Every argument is a flag or an option with one value, and may be
given once. A value stands behind an equals sign or is the next word; in the
second case it is looked at only when the next argument or the end is reached.
-/
namespace PipelineWatch.Watch

/-- What the command line asks for. -/
structure Arguments where
  url : String := ""
  plan : String := "all"
  once : Bool := false
  settleMs : Nat := 1500
  log : Bool := false
deriving DecidableEq, Repr

/-- Why a command line is refused. To ask for help is to ask for nothing else. -/
inductive ArgumentFailure where
  | unknownArgument
  | missingValue
  | invalidValue
  | givenTwice
  | unwantedValue
  | helpWanted
deriving DecidableEq, Repr

/-- The wording of a failure. -/
def ArgumentFailure.message : ArgumentFailure → String
  | .unknownArgument => "unexpected argument"
  | .missingValue => "a value is required"
  | .invalidValue => "invalid value"
  | .givenTwice => "an argument cannot be used multiple times"
  | .unwantedValue => "unexpected value"
  | .helpWanted => "usage: [--url URL] [--plan PLAN] [--once] [--settle-ms MS] [--log]"

namespace Arguments

/-- The flags. -/
inductive Flag where
  | once
  | log
  | help
deriving DecidableEq, Repr

/-- The options, which have a value. -/
inductive Setting where
  | url
  | plan
  | settleMs
deriving DecidableEq, Repr

/-- A name on the command line. -/
inductive Name where
  | flag (flag : Flag)
  | option (setting : Setting)
deriving DecidableEq, Repr

/-- The argument that a word behind two dashes names. -/
def Name.ofWord? (s : String) : Option Name :=
  if s = "once" then some (.flag .once)
  else if s = "log" then some (.flag .log)
  else if s = "help" then some (.flag .help)
  else if s = "url" then some (.option .url)
  else if s = "plan" then some (.option .plan)
  else if s = "settle-ms" then some (.option .settleMs)
  else none

/-- What has been read of a command line: the values, the arguments given so far,
and an option whose value has not been looked at, or has not come yet. -/
structure Progress where
  arguments : Arguments := {}
  given : List Name := []
  pending : Option (Setting × Option String) := none

/-- Marks an argument as given. -/
def Progress.give (p : Progress) (name : Name) : Except ArgumentFailure Progress :=
  if p.given.contains name then .error .givenTwice else .ok { p with given := name :: p.given }

/-- Puts the value of an option. -/
def Progress.put (p : Progress) (setting : Setting) (value : String) :
    Except ArgumentFailure Progress := do
  let p ← p.give (.option setting)
  match setting with
  | .url => .ok { p with arguments.url := value }
  | .plan => .ok { p with arguments.plan := value }
  | .settleMs =>
    match Text.natural? value with
    | .ok n => .ok { p with arguments.settleMs := n }
    | .error _ => .error .invalidValue

/-- Puts the value that has been waiting. -/
def Progress.settle (p : Progress) : Except ArgumentFailure Progress :=
  match p.pending with
  | none => .ok p
  | some (_, none) => .error .missingValue
  | some (setting, some value) => { p with pending := none }.put setting value

/-- Raises a flag. -/
def Progress.raise (p : Progress) (flag : Flag) : Except ArgumentFailure Progress := do
  let p ← p.settle
  match flag with
  | .help => .error .helpWanted
  | .once => do
    let p ← p.give (.flag .once)
    .ok { p with arguments.once := true }
  | .log => do
    let p ← p.give (.flag .log)
    .ok { p with arguments.log := true }

/-- Takes an argument by name, with the value behind its equals sign. -/
def Progress.takeNamed (p : Progress) (name : Name) (value : Option String) :
    Except ArgumentFailure Progress :=
  match name, value with
  | .flag _, some _ => .error .unwantedValue
  | .flag flag, none => p.raise flag
  | .option setting, some value => do (← p.settle).put setting value
  | .option setting, none => do
    let p ← p.settle
    .ok { p with pending := some (setting, none) }

/-- Takes a word that names no argument: the value of the option before it. -/
def Progress.takeValue (p : Progress) (word : String) : Except ArgumentFailure Progress :=
  match p.pending with
  | some (setting, none) => .ok { p with pending := some (setting, some word) }
  | _ => .error .unknownArgument

/-- Takes a word of the command line. -/
def Progress.take (p : Progress) (word : String) : Except ArgumentFailure Progress :=
  match word.toList with
  | '-' :: '-' :: cs =>
    let name := cs.takeWhile (· != '=')
    let value :=
      match cs.drop name.length with
      | _ :: value => some (String.ofList value)
      | [] => none
    match Name.ofWord? (String.ofList name) with
    | some name => p.takeNamed name value
    | none => .error .unknownArgument
  | '-' :: 'h' :: _ => p.raise .help
  | '-' :: _ :: _ => .error .unknownArgument
  | _ => p.takeValue word

/-- Takes the words of a command line. Nothing may follow a word of two dashes. -/
def Progress.run (p : Progress) : List String → Except ArgumentFailure Progress
  | [] => p.settle
  | word :: words =>
    if word = "--" then if words.isEmpty then p.settle else .error .unknownArgument
    else do (← p.take word).run words

/-- What the words behind the name of the program ask for. -/
def parse (words : List String) : Except ArgumentFailure Arguments :=
  (Progress.run {} words).map (·.arguments)

/-- The settings for a session: those of the variables, with the address of the
command line if one is given. -/
def config (a : Arguments) (lookup : String → Option String) :
    Except Config.Failure Config := do
  let config ← Config.ofLookup lookup
  if Text.isBlankText a.url then .ok config
  else .ok { config with endpoint := ← Config.parseEndpoint a.url }

/-- The events that are to be followed. -/
def selection (a : Arguments) : Plan.Selection :=
  .parse a.plan

end Arguments

/-- What a text says about a switch, blanks around it and the size of its letters
aside. -/
def parseSwitch? (s : String) : Option Bool :=
  let word := Text.toLowerAscii (Text.trim s)
  if ["1", "true", "yes", "on"].contains word then some true
  else if ["0", "false", "no", "off"].contains word then some false
  else none

/-- Whether the variables ask for a log on standard error. -/
def logsToStderr (lookup : String → Option String) : Bool :=
  ((lookup "ADM_LOG_STDERR").bind parseSwitch?).getD false

end PipelineWatch.Watch
