/-
Settings: what an operator sets for every pass, in environment variables.

A variable that is not set has a default. The number of launch configurations to retain
has to be a number; a variable that holds something else is a failure, since guessing
could delete what should have been kept. The other two take any text.
-/
import WorkerGroup.Failure
import WorkerGroup.Text.AsciiCase
import WorkerGroup.Text.Blank
import WorkerGroup.Text.Decimal

set_option autoImplicit false

namespace WorkerGroup

/-- What holds for every pass. -/
structure Settings where
  /-- How many launch configurations are kept besides the active one. -/
  configRetention : UInt64 := 2
  /-- Whether Windows nodes are not told the address of the name service. -/
  disableWindowsClusterIp : Bool := false
  logLevel : String := "info"
deriving DecidableEq

namespace Settings

/-- The variable of the number of launch configurations to retain. -/
def retentionVariable : String := "INSTANCEMGR_CONFIG_RETENTION"

/-- The variable of the switch for Windows nodes. -/
def disableWindowsVariable : String := "INSTANCEMGR_DISABLE_WIN_CLUSTER_INJECTION"

/-- The variable of the log level. -/
def logLevelVariable : String := "INSTANCEMGR_LOG_LEVEL"

/-- The retention a value gives. -/
def retentionOf? (v : String) : Option UInt64 :=
  (Text.Decimal.upTo? Text.Decimal.max64 (Text.trim v).toList).map UInt64.ofNat

/-- Whether a value turns a switch on: a one, or `true` in whatever case. -/
def isOn (v : String) : Bool :=
  v == "1" || Text.sameIgnoringCase v "true"

/-- The settings that some variables make. -/
def ofVariables (lookup : String → Option String) : Except SettingFailure Settings := do
  let configRetention ← match lookup retentionVariable with
    | none => pure ({} : Settings).configRetention
    | some v =>
      match retentionOf? v with
      | some n => pure n
      | none => throw ⟨retentionVariable, v⟩
  pure
    { configRetention
      disableWindowsClusterIp := (lookup disableWindowsVariable).any isOn
      logLevel := (lookup logLevelVariable).getD ({} : Settings).logLevel }

end Settings

end WorkerGroup
