/-
The state gauge: which state each instance group is in, as a metric.

A collector keeps the latest state of every group, by the group's name as a text. Its
text form has one series per group and state, with the value one for the state the group
is in and zero for all the others, so a change shows on every series it concerns.
-/
import WorkerGroup.ReconcileState
import WorkerGroup.Table

set_option autoImplicit false

namespace WorkerGroup

/-- A state that is reported for a group. -/
structure StateReport where
  group : String
  state : String
deriving DecidableEq, Repr

/-- The latest state of every group seen so far. -/
structure Collector where
  groups : Table String := ∅
deriving DecidableEq

namespace Collector

/-- The name of the gauge. -/
def gauge : String := "instance_manager_instance_group_status"

/-- The collector after a state was reported for a group. -/
def record (c : Collector) (r : StateReport) : Collector :=
  ⟨c.groups.insert r.group r.state⟩

/-- The collector without a group. -/
def remove (c : Collector) (group : String) : Collector :=
  ⟨c.groups.erase group⟩

/-- The latest state of every group. -/
def snapshot (c : Collector) : Table String :=
  c.groups

/-! ## As text -/

/-- The lines that introduce the gauge. -/
def header : String :=
  "# HELP " ++ gauge ++ " Current reconcile state of an instance group.\n" ++
  "# TYPE " ++ gauge ++ " gauge\n"

/-- The line of one series. -/
def sample (group state : String) (value : Bool) : String :=
  gauge ++ "\x7binstancegroup=\"" ++ group ++ "\",state=\"" ++ state ++ "\"\x7d " ++
    (if value then "1" else "0") ++ "\n"

/-- The lines of a group: one per state, in the order of the lifecycle. -/
def samples (group current : String) : String :=
  String.join (ReconcileState.all.map fun s => sample group s.name (s.name == current))

/-- The gauge as text, groups in the order of their names. -/
def render (c : Collector) : String :=
  header ++ String.join (c.groups.entries.map fun e => samples e.1 e.2)

end Collector

end WorkerGroup
