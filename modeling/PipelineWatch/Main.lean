import PipelineWatch.Watch.Arguments
import PipelineWatch.Watch.Live

/-!
The command line of the watcher. The link is standard input, one frame a line,
and the remote side ends it where the input ends.
-/
namespace PipelineWatch.Main

open PipelineWatch.Watch

/-- The variables that settings come from. -/
def settingNames : List String :=
  ["ADM_GATEWAY_URL", "ADM_RECONNECT_DELAY_MS", "ADM_EVENT_CAPACITY", "ADM_MAX_FRAME_BYTES",
   "ADM_LOG_STDERR"]

/-- The variables that are set. -/
def readVariables : IO (String → Option String) := do
  let values ← settingNames.mapM fun name => do return (name, ← IO.getEnv name)
  return fun name => (values.lookup name).join

/-- A line without its end. -/
def frameOfLine (line : String) : List UInt8 :=
  Text.Utf8.ofString (String.ofList (line.toList.filter fun c => c != '\n' && c != '\r'))

/-- Prints the lines that the watcher has to say, unless it is to be silent. -/
def report (silent : Bool) (l : Live) : IO Live := do
  let (l, _, lines) := l.catchUp
  unless silent do
    lines.forM IO.println
  return l

/-- Takes in frames up to the end of the input. -/
partial def follow (silent : Bool) (input : IO.FS.Stream) (l : Live) : IO Live := do
  let line ← input.getLine
  if line.isEmpty then
    report silent (l.step (.endLink 0))
  else
    follow silent input (← report silent (l.step (.frames 0 [frameOfLine line])))

/-- Watches a session with the given settings. -/
def watch (arguments : Arguments) (config : Config) : IO Unit := do
  let l := Live.start (.ofConfig config) config.updateBuffer arguments.selection
  let l := l.step .planLink
  unless arguments.once do
    IO.println (Line.status l.session.status)
  let l ← report arguments.once (l.step .start)
  let l ← follow arguments.once (← IO.getStdin) l
  if arguments.once then
    (settled l.session arguments.selection).forM IO.println

end PipelineWatch.Main

open PipelineWatch in
/-- Watches a gateway as the words behind the name of the program say. -/
def main (words : List String) : IO UInt32 := do
  match Watch.Arguments.parse words with
  | .error .helpWanted =>
    IO.println Watch.ArgumentFailure.helpWanted.message
    return 0
  | .error e =>
    IO.eprintln e.message
    return 2
  | .ok arguments =>
    let lookup ← Main.readVariables
    match arguments.config lookup with
    | .error e =>
      IO.eprintln e.message
      return 1
    | .ok config =>
      if arguments.log || Watch.logsToStderr lookup then
        IO.eprintln s!"session open at {config.endpoint.text}"
      Main.watch arguments config
      return 0
