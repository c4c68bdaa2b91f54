import ControlPlane.Console
import Std.Time.DateTime.Timestamp

/-!
# The command

The command loads the settings, overrides them from the command line, and then
handles the requests that it reads from standard input.  Log records go to
standard error.  Everything that is decided is decided elsewhere; this module
only reads, writes and asks for the time.
-/

namespace ControlPlane.Main

open ControlPlane.Time (Instant)

/-- The present instant. -/
def now : IO Instant := do
  let nanos := (← Std.Time.Timestamp.now).toNanosecondsSinceUnixEpoch.val
  return (Instant.ofUnixNanos? nanos).getD .epoch

/-- A number that no one knows beforehand. -/
def randomSeed : IO UInt32 := do
  let octets ← IO.getRandomBytes 4
  return .ofNat (octets.toList.foldl (fun n octet => n * 256 + octet.toNat) 0)

/-- The text of a file, if there is such a file. -/
def readFile? (path : String) : IO (Option String) :=
  try return some (← IO.FS.readFile path)
  catch _ => return none

/-- The variables that settings can be taken from. -/
def readEnvironment : IO (List (String × String)) := do
  let names := (Settings.default 0).toVariables.map Prod.fst
  let found ← names.mapM fun name => do
    return (← IO.getEnv name).map fun value => (name, value)
  return found.filterMap id

/-- Writes log records. -/
def writeLog (records : List LogRecord) : IO Unit :=
  records.forM fun record => IO.eprintln (Console.logLine record)

/-- Handles the request on a line. -/
def serveLine (site : Gateway.Site) (registry : Registry) (line : String) : IO Registry := do
  let request := Console.request (line.toList.filter fun c => c ≠ '\n' && c ≠ '\r')
  if request.isValid then
    let handled := Gateway.handle site (← now) registry request
    writeLog handled.log
    (Console.responseLines handled.response).forM IO.println
    return handled.registry
  else
    IO.println (Http.statusText 400)
    return registry

/-- Handles requests until the input ends. -/
partial def serve (site : Gateway.Site) (input : IO.FS.Stream) (registry : Registry) :
    IO Unit := do
  let line ← input.getLine
  unless line.isEmpty do
    serve site input (← serveLine site registry line)

/-- Runs the gateway with the given options. -/
def run (options : Options) : IO UInt32 := do
  let file ← readFile? options.configPath
  if file.isNone then
    writeLog [{ level := .warn, message := "Config file not found, using defaults"
                fields := [("path", .text options.configPath)] }]
  match Settings.load (← randomSeed) file (← readEnvironment) with
  | .error fault =>
      IO.eprintln fault.message
      return 1
  | .ok settings =>
      let settings := options.override settings
      let site := Gateway.Site.ofSettings settings PageDirectory.unassigned (← now)
      serve site (← IO.getStdin) Registry.empty
      return 0

end ControlPlane.Main

/-- The command. -/
def main (arguments : List String) : IO UInt32 :=
  match ControlPlane.Options.ofArguments arguments with
  | .ok options => ControlPlane.Main.run options
  | .error fault => do
      IO.eprintln fault.message
      IO.eprintln ControlPlane.Options.usage
      return 2
