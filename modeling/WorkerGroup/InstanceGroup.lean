/-
Instance groups: the resource that describes a set of worker nodes.

A group has an identity and annotations in its metadata, a desired state in its spec and
an observed state in its status. What a manifest leaves out is the empty value of its
type, never an error, so every field has a default; where "not there" and "empty" are
different things the field is an option. A group that names no namespace is in the
default one, and nothing downstream can tell the three ways of saying so apart.
-/
import WorkerGroup.GroupName
import WorkerGroup.Instant
import WorkerGroup.ReconcileState
import WorkerGroup.Table
import WorkerGroup.Text.AsciiCase
import WorkerGroup.UpgradeStrategy

set_option autoImplicit false

namespace WorkerGroup

/-! ## Metadata -/

/-- The standard metadata of a resource. A pass reads the names, the annotations and the deletion
mark, and hands back all that is here. Five members that metadata may have besides are left out:
`generateName`, `ownerReferences`, `managedFields`, `selfLink` and `deletionGracePeriodSeconds`.
They are passed over where they stand, and whether they are of their types is not checked. -/
structure Metadata where
  annotations : Option (Table String) := none
  creationTimestamp : Option Instant := none
  /-- Set once the resource is to be deleted. -/
  deletionTimestamp : Option Instant := none
  finalizers : Option (List String) := none
  generation : Option Int64 := none
  labels : Option (Table String) := none
  name : Option String := none
  namespaceName : Option String := none
  resourceVersion : Option String := none
  uid : Option String := none
deriving DecidableEq, Inhabited

/-! ## What nodes are made of -/

/-- A taint that nodes of the group carry. -/
structure Taint where
  effect : String := ""
  key : String := ""
  timeAdded : Option Instant := none
  value : Option String := none
deriving DecidableEq, Inhabited

/-- A named piece of user data for a bootstrap stage. -/
structure UserDataStage where
  name : String := ""
  stage : String := ""
  /-- The content, as it is or as base64. -/
  data : String := ""
deriving DecidableEq, Inhabited

/-- How a volume is mounted. -/
structure VolumeMount where
  fileSystem : String := ""
  mount : String := ""
  /-- Whether the mount outlives a restart. -/
  persistance : Bool := false
deriving DecidableEq, Inhabited

/-- A block device that every node has. -/
structure Volume where
  /-- The device, such as `/dev/xvdb`. -/
  name : String
  kind : String := ""
  size : Int64 := 0
  mountOptions : Option VolumeMount := none
deriving DecidableEq, Inhabited

/-- An instance type with its weight in a mixed group. -/
structure WeightedType where
  kind : String
  weight : String := "1"
deriving DecidableEq, Inhabited

/-- How a group mixes instance types. -/
structure MixedInstancesPolicy where
  strategy : Option String := none
  /-- The kind of pool the types are derived from. -/
  instancePool : Option String := none
  /-- The types listed one by one, which win over a pool. -/
  instanceTypes : List WeightedType := []
  spotRatio : Option String := none
deriving DecidableEq, Inhabited

/-- What the nodes of a group run on. -/
structure NodeConfiguration where
  clusterName : String := ""
  image : String := ""
  instanceType : String := ""
  labels : Table String := ∅
  taints : List Taint := []
  /-- Extra arguments of the bootstrap script. -/
  bootstrapArguments : String := ""
  userData : List UserDataStage := []
  volumes : List Volume := []
  spotPrice : Option String := none
  mixedInstancesPolicy : Option MixedInstancesPolicy := none
deriving DecidableEq, Inhabited

/-! ## Spec and status -/

/-- The size of a group and what its nodes run on. -/
structure NodeScaling where
  minSize : Int64 := 0
  maxSize : Int64 := 0
  configuration : NodeConfiguration := {}
deriving DecidableEq, Inhabited

/-- The desired state of a group. -/
structure GroupSpec where
  provisioner : String := ""
  /-- Suspends every change to the group while true. -/
  locked : Option Bool := none
  strategy : Option UpgradeStrategy := none
  eks : NodeScaling := {}
deriving DecidableEq, Inhabited

/-- The observed state of a group. -/
structure GroupStatus where
  provisioner : String := ""
  strategy : String := ""
  currentState : ReconcileState := .init
  activeScalingGroupName : Option String := none
  activeLaunchConfigurationName : Option String := none
deriving DecidableEq, Inhabited

/-- An instance group. -/
structure InstanceGroup where
  apiVersion : String := "instancemgr.keikoproj.io/v1alpha1"
  kind : String := "InstanceGroup"
  metadata : Metadata := {}
  spec : GroupSpec := {}
  status : GroupStatus := {}
deriving DecidableEq, Inhabited

/-! ## Reading a group -/

/-- Whether a stage is tagged for a bootstrap stage, in whatever case. -/
def UserDataStage.isStage (s : UserDataStage) (stage : String) : Bool :=
  Text.sameIgnoringCase s.stage stage

/-- Whether nodes run on spot capacity: a spot price that is not empty says so. -/
def NodeConfiguration.isSpot (c : NodeConfiguration) : Bool :=
  c.spotPrice.any (· ≠ "")

namespace InstanceGroup

/-- The kind every instance group manifest names. -/
def expectedKind : String := "InstanceGroup"

/-- The group of a name, and nothing else said about it. -/
def named (namespaceName name : String) : InstanceGroup :=
  { metadata := { name := some name, namespaceName := some namespaceName } }

/-- The name, empty when none is set. -/
def name (g : InstanceGroup) : String :=
  g.metadata.name.getD ""

/-- The namespace, the default one when none is set. -/
def namespaceName (g : InstanceGroup) : String :=
  match g.metadata.namespaceName with
  | some ns => if ns = "" then GroupName.defaultNamespace else ns
  | none => GroupName.defaultNamespace

/-- The identity of the group. -/
def groupName (g : InstanceGroup) : GroupName :=
  ⟨g.namespaceName, g.name⟩

/-- The annotations, none when the resource has no map of them. -/
def annotations (g : InstanceGroup) : Table String :=
  g.metadata.annotations.getD ∅

/-- Whether the group is marked for deletion. -/
def isDeleting (g : InstanceGroup) : Bool :=
  g.metadata.deletionTimestamp.isSome

/-- Whether changes to the group are suspended. -/
def isLocked (g : InstanceGroup) : Bool :=
  g.spec.locked.getD false

/-- What the group's nodes run on. -/
def configuration (g : InstanceGroup) : NodeConfiguration :=
  g.spec.eks.configuration

/-- The upgrade strategy, the one that says nothing when none is configured. -/
def upgradeStrategy (g : InstanceGroup) : UpgradeStrategy :=
  g.spec.strategy.getD {}

/-- The state recorded on the status. -/
def state (g : InstanceGroup) : ReconcileState :=
  g.status.currentState

/-- The group with another state recorded on its status. -/
def withState (g : InstanceGroup) (s : ReconcileState) : InstanceGroup :=
  { g with status := { g.status with currentState := s } }

/-- The group with another node configuration. -/
def withConfiguration (g : InstanceGroup) (c : NodeConfiguration) : InstanceGroup :=
  { g with spec := { g.spec with eks := { g.spec.eks with configuration := c } } }

/-- The group with an annotation set. -/
def annotate (g : InstanceGroup) (key item : String) : InstanceGroup :=
  { g with metadata := { g.metadata with annotations := some (g.annotations.insert key item) } }

/-- The group without an annotation; a group that had none has an empty map after. -/
def unannotate (g : InstanceGroup) (key : String) : InstanceGroup :=
  { g with metadata := { g.metadata with annotations := some (g.annotations.erase key) } }

end InstanceGroup

end WorkerGroup
