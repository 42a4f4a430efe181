/-
Collaborators: what a pass is handed from the cloud, the cluster and the metrics side.

A pass asks nobody anything itself; a caller asks and hands the answers in. The cloud
answers about one cluster it may know and lists what is on offer; the cluster may have a
name service. The collector of the state gauge is a metrics sink that takes every state.
The recorder is one for trying passes out: it keeps everything it was told, and refuses
everything while it is set to fail.
-/
import WorkerGroup.Cluster
import WorkerGroup.Failure
import WorkerGroup.Metrics
import WorkerGroup.Offering
import WorkerGroup.Pass

set_option autoImplicit false

namespace WorkerGroup

/-! ## The cloud and the cluster -/

/-- What the cloud knows. -/
structure Cloud where
  cluster : Option ClusterInfo := none
  offerings : List Offering := []
deriving DecidableEq

/-- The cluster of a name, if it is the one the cloud knows. -/
def Cloud.describeCluster (c : Cloud) (name : String) : Except CloudFailure ClusterInfo :=
  match c.cluster with
  | some info => if info.name = name then .ok info else .error (.clusterNotFound name)
  | none => .error (.clusterNotFound name)

/-- The instance types the cloud offers. -/
def Cloud.listOfferings (c : Cloud) : Except CloudFailure (List Offering) :=
  .ok c.offerings

/-- The name service of a cluster. -/
structure NameService where
  /-- Its address inside the cluster, if there is such a service. -/
  address : Option String := none
deriving DecidableEq

/-- Where the cluster says its name service is. -/
def NameService.locate (n : NameService) : Except ClusterFailure (Option String) :=
  .ok n.address

/-! ## The state gauge as a sink -/

/-- What the collector says to a report: it has room for every state. -/
def Collector.verdict (_ : Collector) : Pass.Verdict :=
  .ok ()

/-! ## Recording what the sink is told -/

/-- A metrics sink that keeps what it was told. -/
structure Recorder where
  reports : List StateReport := []
  failing : Bool := false
deriving DecidableEq

namespace Recorder

/-- What the recorder says to a report. -/
def verdict (r : Recorder) : Pass.Verdict :=
  if r.failing then .error (.unavailable "mock sink failing") else .ok ()

/-- The recorder after a report. -/
def record (r : Recorder) (report : StateReport) : Recorder :=
  if r.failing then r else { r with reports := r.reports ++ [report] }

/-- The states it was told for a group, in order. -/
def statesOf (r : Recorder) (group : String) : List String :=
  (r.reports.filter fun report => report.group == group).map (·.state)

end Recorder

end WorkerGroup
