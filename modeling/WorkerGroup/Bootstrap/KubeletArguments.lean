/-
Kubelet arguments: labels and taints as command line flags.

Labels come first, then taints, each behind a flag of its own and left out when there
are none. Entries are separated by commas. A taint without a value, or with an empty
one, is written without the equals sign.
-/
import WorkerGroup.InstanceGroup

set_option autoImplicit false

namespace WorkerGroup.Bootstrap

/-- A label as the kubelet takes it. -/
def labelArgument (label : String × String) : String :=
  label.1 ++ "=" ++ label.2

/-- A taint as the kubelet takes it. -/
def taintArgument (t : Taint) : String :=
  match t.value with
  | some value =>
    if value = "" then t.key ++ ":" ++ t.effect
    else t.key ++ "=" ++ value ++ ":" ++ t.effect
  | none => t.key ++ ":" ++ t.effect

/-- The flags for a map of labels and a list of taints. -/
def kubeletArguments (labels : Table String) (taints : List Taint) : String :=
  let labelFlag := if labels.isEmpty then []
    else ["--node-labels=" ++ ",".intercalate (labels.entries.map labelArgument)]
  let taintFlag := if taints.isEmpty then []
    else ["--register-with-taints=" ++ ",".intercalate (taints.map taintArgument)]
  " ".intercalate (labelFlag ++ taintFlag)

end WorkerGroup.Bootstrap
