/-
Discovered state: what was found in the cloud for one instance group.

A pass is handed a snapshot of the cloud and replaces the one before it as a whole; it
only adds the instance pool it resolved. The snapshot without anything in it stands for
"nothing provisioned". Together with the deletion mark of the group, a snapshot says
which state a pass starts from.
-/
import WorkerGroup.Cluster
import WorkerGroup.LaunchConfiguration
import WorkerGroup.Pool
import WorkerGroup.ReconcileState

set_option autoImplicit false

namespace WorkerGroup

/-! ## Scaling groups -/

/-- A scaling group as the cloud has it. -/
structure ScalingGroup where
  name : String
  minSize : Int64
  maxSize : Int64
  desiredCapacity : Int64
  /-- Set while the scaling group is being deleted. -/
  status : Option String
  instanceIds : List String
deriving DecidableEq

/-- Whether a scaling group is being deleted. -/
def ScalingGroup.isDeleting (s : ScalingGroup) : Bool :=
  s.status == some "Delete in progress"

/-! ## Snapshots -/

/-- What was found in the cloud for a group. -/
structure DiscoveredState where
  provisioned : Bool := false
  scalingGroup : Option ScalingGroup := none
  launchConfigurations : List LaunchConfiguration := []
  activeLaunchConfiguration : Option String := none
  launchTemplate : Option String := none
  cluster : Option ClusterInfo := none
  offerings : List Offering := []
  instancePool : Option InstancePool := none
  nodeCount : UInt64 := 0
deriving DecidableEq

namespace DiscoveredState

instance : Inhabited DiscoveredState := ⟨{}⟩

/-- Whether the scaling group that was found is being deleted. -/
def isScalingGroupDeleting (d : DiscoveredState) : Bool :=
  d.scalingGroup.any ScalingGroup.isDeleting

/-- The first offering of an instance type. -/
def offering? (d : DiscoveredState) (instanceType : String) : Option Offering :=
  d.offerings.find? fun o => o.instanceType == instanceType

/-- The state a pass starts from, for a group that is marked for deletion or not. -/
def initialState (d : DiscoveredState) (deleting : Bool) : ReconcileState :=
  match deleting, d.provisioned with
  | true, false => .deleted
  | true, true => if d.isScalingGroupDeleting then .deleting else .initDelete
  | false, false => .initCreate
  | false, true => .initUpdate

end DiscoveredState

/-! ## As data -/

section

variable {α : Type} (D : Schema.Dialect α)

/-- A scaling group; every field but the status is required. -/
def ScalingGroup.decode? (v : α) : Option ScalingGroup := do
  let r ← D.fullRecord? ["name", "min_size", "max_size", "desired_capacity", "status",
    "instance_ids"] v
  let name ← r.required? "name" D.text?
  let minSize ← r.required? "min_size" D.int64?
  let maxSize ← r.required? "max_size" D.int64?
  let desiredCapacity ← r.required? "desired_capacity" D.int64?
  let status ← r.optional? D "status" D.text?
  let instanceIds ← r.required? "instance_ids" (D.list? D.text?)
  some { name, minSize, maxSize, desiredCapacity, status, instanceIds }

/-- A snapshot; every field that is not optional is required. -/
def DiscoveredState.decode? (v : α) : Option DiscoveredState := do
  let r ← D.fullRecord? ["provisioned", "scaling_group", "launch_configurations",
    "active_launch_configuration", "launch_template", "cluster", "instance_types",
    "instance_pool", "node_count"] v
  let provisioned ← r.required? "provisioned" D.flag?
  let scalingGroup ← r.optional? D "scaling_group" (ScalingGroup.decode? D)
  let launchConfigurations ←
    r.required? "launch_configurations" (D.list? (LaunchConfiguration.decode? D))
  let activeLaunchConfiguration ← r.optional? D "active_launch_configuration" D.text?
  let launchTemplate ← r.optional? D "launch_template" D.text?
  let cluster ← r.optional? D "cluster" (ClusterInfo.decode? D)
  let offerings ← r.required? "instance_types" (D.list? (Offering.decode? D))
  let instancePool ← r.optional? D "instance_pool" (InstancePool.decode? D)
  let nodeCount ← r.required? "node_count" D.uint64?
  some { provisioned, scalingGroup, launchConfigurations, activeLaunchConfiguration,
         launchTemplate, cluster, offerings, instancePool, nodeCount }

end

/-- A scaling group as JSON. -/
def ScalingGroup.encode (s : ScalingGroup) : Json :=
  .obj [("name", .str s.name), ("min_size", .int s.minSize.toInt),
    ("max_size", .int s.maxSize.toInt), ("desired_capacity", .int s.desiredCapacity.toInt),
    ("status", Json.ofOption .str s.status),
    ("instance_ids", Json.ofList .str s.instanceIds)]

/-- A snapshot as JSON, null for what was not found. -/
def DiscoveredState.encode (d : DiscoveredState) : Json :=
  .obj [("provisioned", .bool d.provisioned),
    ("scaling_group", Json.ofOption ScalingGroup.encode d.scalingGroup),
    ("launch_configurations",
      Json.ofList LaunchConfiguration.encode d.launchConfigurations),
    ("active_launch_configuration", Json.ofOption .str d.activeLaunchConfiguration),
    ("launch_template", Json.ofOption .str d.launchTemplate),
    ("cluster", Json.ofOption ClusterInfo.encode d.cluster),
    ("instance_types", Json.ofList Offering.encode d.offerings),
    ("instance_pool", Json.ofOption InstancePool.encode d.instancePool),
    ("node_count", .int d.nodeCount.toNat)]

end WorkerGroup
