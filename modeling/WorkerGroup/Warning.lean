/-
Warnings: what a pass notices about a group and goes on without.

Input that is absent has a default and input that is invalid is ignored, so resolving a
group never fails. What was ignored is not lost, though: it is handed back as a warning
beside the answer, and a caller decides where to log it.
-/
import WorkerGroup.OsFamily

set_option autoImplicit false

namespace WorkerGroup

/-- Something a pass noticed and went on without. -/
inductive Warning where
  /-- The OS family annotation names no family; the value as it was written. -/
  | unsupportedOsFamily (value : String)
  /-- The host pods annotation is no number; the value as it was written. -/
  | invalidHostPods (value : String)
  /-- The family takes a node configuration document and the group has none. -/
  | missingNodeConfig (family : OsFamily)
deriving DecidableEq, Repr

namespace Warning

/-- The sentence a warning is logged with. -/
def message : Warning → String
  | unsupportedOsFamily _ => "unsupported os family annotation value, using default"
  | invalidHostPods _ => "invalid host pods annotation, using default"
  | missingNodeConfig _ =>
    "no NodeConfigYaml user data stage, using script bootstrap parameters"

end Warning

end WorkerGroup
