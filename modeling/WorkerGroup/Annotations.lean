/-
Annotations: the switches an operator sets on an instance group.

Keys are matched exactly. A switch is on when its value is `true` in whatever case, with
or without blanks around it; default labels are the other way round and are on unless
the value is `false`. The number of host pods is read up to the size of its word, and a
value that is no such number is ignored but reported.
-/
import WorkerGroup.OsFamily
import WorkerGroup.Table
import WorkerGroup.Text.AsciiCase
import WorkerGroup.Text.Blank
import WorkerGroup.Text.Decimal
import WorkerGroup.Warning

set_option autoImplicit false

namespace WorkerGroup.Annotations

open WorkerGroup.Text

/-! ## Keys -/

/-- Whether nodes carry the default labels. -/
def defaultLabelsKey : String := "instancemgr.keikoproj.io/default-labels"

/-- Whether service accounts have roles of their own. -/
def irsaKey : String := "instancemgr.keikoproj.io/irsa-enabled"

/-- The OS family, in place of the default one. -/
def osFamilyKey : String := "instancemgr.keikoproj.io/os-family"

/-- Whether the cluster autoscaler manages the group. -/
def autoscalerKey : String := "instancemgr.keikoproj.io/cluster-autoscaler-enabled"

/-- Whether pods have a network of their own. -/
def customNetworkingKey : String := "instancemgr.keikoproj.io/custom-networking-enabled"

/-- How many pods on a node use the host's network. -/
def hostPodsKey : String := "instancemgr.keikoproj.io/custom-networking-host-pods"

/-- Whether whole address prefixes are assigned to a network interface. -/
def prefixAssignmentKey : String :=
  "instancemgr.keikoproj.io/custom-networking-prefix-assignment-enabled"

/-! ## Values -/

/-- Whether the value under a key is a word, in whatever case and with blanks around it. -/
def isWord (annotations : Table String) (key word : String) : Bool :=
  (annotations.find? key).any fun v => sameIgnoringCase (trim v) word

/-- The OS family as it was written, if any. -/
def osFamily? (annotations : Table String) : Option String :=
  annotations.find? osFamilyKey

/-- Default labels are on unless the annotation says `false`. -/
def defaultLabels (annotations : Table String) : Bool :=
  !isWord annotations defaultLabelsKey "false"

/-- Whether service accounts have roles of their own. -/
def irsa (annotations : Table String) : Bool :=
  isWord annotations irsaKey "true"

/-- Whether the cluster autoscaler manages the group. -/
def autoscaler (annotations : Table String) : Bool :=
  isWord annotations autoscalerKey "true"

/-- Whether pods have a network of their own. -/
def customNetworking (annotations : Table String) : Bool :=
  isWord annotations customNetworkingKey "true"

/-- Whether whole address prefixes are assigned. -/
def prefixAssignment (annotations : Table String) : Bool :=
  isWord annotations prefixAssignmentKey "true"

/-- The host pods of a group that does not say how many. -/
def defaultHostPods : UInt32 := 2

/-- The number of host pods a value says. -/
def hostPodsOf? (v : String) : Option UInt32 :=
  (Decimal.upTo? Decimal.max32 (trim v).toList).map UInt32.ofNat

/-- The number of pods that use the host's network, and what was wrong with the value. -/
def hostPods (annotations : Table String) : UInt32 × List Warning :=
  match annotations.find? hostPodsKey with
  | none => (defaultHostPods, [])
  | some v =>
    match hostPodsOf? v with
    | some n => (n, [])
    | none => (defaultHostPods, [.invalidHostPods v])

end WorkerGroup.Annotations
