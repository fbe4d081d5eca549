import DocAnalytics.CommandLine
import Std.Time.DateTime.Timestamp

/-!
# DocAnalytics.Main

The program. Settings come from environment variables; the snapshot is a file, which need not be
there yet. There is no way to providers of language models here, so none of them can be reached.
-/

namespace DocAnalytics
namespace CommandLine

/-- The variables of the environment that settings are read from. -/
def readEnvironment : IO (List (String × String)) :=
  Settings.names.filterMapM fun name => do
    return (← IO.getEnv name).map fun value => (name, value)

/-- The text of a file, if there is such a file. -/
def readSnapshot (path : String) : IO (Option String) := do
  try
    return some (← IO.FS.readFile path)
  catch
    | .noFileOrDirectory _ _ _ => return none
    | e => throw e

/-- Replaces the text of a file as a whole. -/
def writeSnapshot (path text : String) : IO Unit := do
  let written := path ++ ".tmp"
  IO.FS.writeFile written text
  IO.FS.rename written path

def readClock : IO String := do
  let now ← Std.Time.Timestamp.now
  return Timestamp.ofSeconds now.toSecondsSinceUnixEpoch.val.toNat

def runProcess : IO UInt32 := do
  let environment ← readEnvironment
  let settings := Settings.ofLookup fun name => List.lookup name environment
  let snapshot ←
    match settings.snapshot with
    | none => pure none
    | some path => readSnapshot path
  let model := settings.gateway.generate Transport.offline
  let outcome := run settings model (← readClock) snapshot
  IO.print outcome.output
  match outcome.snapshot with
  | .error e =>
    IO.eprintln e.message
    return 1
  | .ok text =>
    if let some path := settings.snapshot then
      writeSnapshot path text
    return 0

end CommandLine
end DocAnalytics

def main : IO UInt32 := do
  try
    DocAnalytics.CommandLine.runProcess
  catch e =>
    IO.eprintln (DocAnalytics.StorageError.unreachable.message ++ ": " ++ toString e)
    return 1
