/-
The program: a run in the surroundings of a process.

Everything that is decided is decided by `run`, which is a function. Here its
surroundings are read, the variables and files it can ask for and the clock, and what
comes of it is printed.
-/
import WorkerGroup.CommandLine.Run
import Std.Time.DateTime

set_option autoImplicit false

namespace WorkerGroup.CommandLine

/-! ## Reading the surroundings -/

/-- The variables a run looks at. -/
def variableNames : List String :=
  [Draft.endpointVariable, Draft.certificateAuthorityVariable, Settings.retentionVariable,
    Settings.disableWindowsVariable, Settings.logLevelVariable]

/-- The variables a run looks at, as far as they are set. -/
def readVariables : IO (Table String) := do
  let set ← variableNames.filterMapM fun name => do
    return (← IO.getEnv name).map fun v => (name, v)
  return Table.ofList set

/-- The texts of those files that can be read. -/
def readFiles (paths : List String) : IO (Table String) := do
  let texts ← paths.filterMapM fun (path : String) => do
    try return some (path, ← IO.FS.readFile path)
    catch _ => return none
  return Table.ofList texts

/-- The time, if it is one an instant can be. -/
def readClock : IO (Option Instant) := do
  let t := Std.Time.PlainDateTime.ofWallTime
    (.ofTimestamp (← Std.Time.Timestamp.now) Std.Time.TimeZone.Offset.zero)
  return Instant.of? ⟨t.year.toInt, t.month.toNat, t.day.toNat⟩
    t.hour.toNat t.minute.toNat t.second.toNat t.nanosecond.toNat

/-- The paths a command line names. -/
def Arguments.paths (a : Arguments) : List String :=
  a.manifest :: a.offerings.toList

/-- The files a command line names. -/
def readNamedFiles (words : List String) (environment : Table String) : IO (Table String) :=
  match Arguments.parse words environment.find? with
  | .ok a => readFiles a.paths
  | .error _ => return ∅

/-! ## Printing -/

/-- Prints what comes of a run. -/
def Outcome.print : Outcome → IO Unit
  | .printed text => IO.print text
  | .misused error => IO.eprint ("error: " ++ error.message ++ "\n\n" ++ usageText)
  | .failed failure => do
    IO.eprintln ("Error: " ++ failure.message)
    if let some cause := failure.cause? then
      IO.eprintln ("\nCaused by:\n    " ++ cause)

end WorkerGroup.CommandLine

open WorkerGroup.CommandLine in
/-- Runs with the words of the command line. -/
def main (words : List String) : IO UInt32 := do
  let environment ← readVariables
  let files ← readNamedFiles words environment
  let some now ← readClock | throw (.userError "the clock shows no date of the calendar")
  let outcome := run words { environment := environment.find?, file? := files.find?, now }
  outcome.print
  return outcome.exitCode
