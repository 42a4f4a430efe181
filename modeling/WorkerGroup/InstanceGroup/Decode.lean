/-
Reading an instance group through a dialect.

Each record gives its fields in the order it declares them, which is the order an
unnamed record is read in. Almost every field may be missing; the name of a volume and
the type of a weighted instance type may not. Metadata and taints are records of the
cluster's own interface: they are open records, and a field of theirs that is there but
empty counts as missing.
-/
import WorkerGroup.InstanceGroup
import WorkerGroup.Instant.Text
import WorkerGroup.Schema.Dialect

set_option autoImplicit false

namespace WorkerGroup

open Schema

variable {α : Type} (D : Dialect α)

/-! ## Values -/

/-- An instant, from its text. -/
def Instant.decode? (v : α) : Option Instant :=
  (D.text? v).bind Instant.read?

/-- A map from texts to texts. -/
def Table.decode? (v : α) : Option (Table String) :=
  (D.map? D.text? v).map Table.ofList

/-- A reconcile state, from its name. -/
def ReconcileState.decode? (v : α) : Option ReconcileState :=
  (D.choice? v).bind ReconcileState.ofName?

/-- A number of nodes or a share of them. -/
def NodeShare.decode? (v : α) : Option NodeShare :=
  match D.integerOrText? v with
  | some (.inl n) =>
    if -2147483648 ≤ n ∧ n ≤ 2147483647 then some (.count (Int32.ofInt n)) else none
  | some (.inr s) => some (.text s)
  | none => none

/-! ## Upgrade strategies -/

/-- The settings of a rolling update. -/
def RollingUpdate.decode? (v : α) : Option RollingUpdate := do
  let r ← D.record? ["maxUnavailable"] v
  let maxUnavailable ← r.optional? D "maxUnavailable" (NodeShare.decode? D)
  some { maxUnavailable }

/-- The settings of a replacement by a custom resource. -/
def CustomResourceUpdate.decode? (v : α) : Option CustomResourceUpdate := do
  let r ← D.record? ["crdName", "spec", "statusJsonPath", "statusSuccessString",
    "statusFailureString", "concurrencyPolicy", "maxRetries"] v
  let crdName ← r.default? "crdName" D.text? ""
  let spec ← r.default? "spec" D.text? ""
  let statusJsonPath ← r.default? "statusJsonPath" D.text? ""
  let statusSuccessString ← r.default? "statusSuccessString" D.text? ""
  let statusFailureString ← r.default? "statusFailureString" D.text? ""
  let concurrencyPolicy ← r.optional? D "concurrencyPolicy" D.text?
  let maxRetries ← r.optional? D "maxRetries" D.int32?
  some { crdName, spec, statusJsonPath, statusSuccessString, statusFailureString,
         concurrencyPolicy, maxRetries }

/-- An upgrade strategy. -/
def UpgradeStrategy.decode? (v : α) : Option UpgradeStrategy := do
  let r ← D.record? ["type", "rollingUpdate", "crd"] v
  let kind ← r.default? "type" D.text? ""
  let rollingUpdate ← r.optional? D "rollingUpdate" (RollingUpdate.decode? D)
  let crd ← r.optional? D "crd" (CustomResourceUpdate.decode? D)
  some { kind, rollingUpdate, crd }

/-! ## Node configuration -/

/-- A taint. -/
def Taint.decode? (v : α) : Option Taint := do
  let r ← D.openRecord? v
  let effect ← r.optional? D "effect" D.text?
  let key ← r.optional? D "key" D.text?
  let timeAdded ← r.optional? D "timeAdded" (Instant.decode? D)
  let value ← r.optional? D "value" D.text?
  some { effect := effect.getD "", key := key.getD "", timeAdded, value }

/-- A piece of user data. -/
def UserDataStage.decode? (v : α) : Option UserDataStage := do
  let r ← D.record? ["name", "stage", "data"] v
  let name ← r.default? "name" D.text? ""
  let stage ← r.default? "stage" D.text? ""
  let data ← r.default? "data" D.text? ""
  some { name, stage, data }

/-- The mount options of a volume. -/
def VolumeMount.decode? (v : α) : Option VolumeMount := do
  let r ← D.record? ["fileSystem", "mount", "persistance"] v
  let fileSystem ← r.default? "fileSystem" D.text? ""
  let mount ← r.default? "mount" D.text? ""
  let persistance ← r.default? "persistance" D.flag? false
  some { fileSystem, mount, persistance }

/-- A volume; its name is required. -/
def Volume.decode? (v : α) : Option Volume := do
  let r ← D.record? ["name", "type", "size", "mountOptions"] v
  let name ← r.required? "name" D.text?
  let kind ← r.default? "type" D.text? ""
  let size ← r.default? "size" D.int64? 0
  let mountOptions ← r.optional? D "mountOptions" (VolumeMount.decode? D)
  some { name, kind, size, mountOptions }

/-- A weighted instance type; its type is required. -/
def WeightedType.decode? (v : α) : Option WeightedType := do
  let r ← D.record? ["type", "weight"] v
  let kind ← r.required? "type" D.text?
  let weight ← r.default? "weight" D.text? "1"
  some { kind, weight }

/-- A mixed instances policy. -/
def MixedInstancesPolicy.decode? (v : α) : Option MixedInstancesPolicy := do
  let r ← D.record? ["strategy", "instancePool", "instanceTypes", "spotRatio"] v
  let strategy ← r.optional? D "strategy" D.text?
  let instancePool ← r.optional? D "instancePool" D.text?
  let instanceTypes ← r.default? "instanceTypes" (D.list? (WeightedType.decode? D)) []
  let spotRatio ← r.optional? D "spotRatio" D.text?
  some { strategy, instancePool, instanceTypes, spotRatio }

/-- A node configuration. -/
def NodeConfiguration.decode? (v : α) : Option NodeConfiguration := do
  let r ← D.record? ["clusterName", "image", "instanceType", "labels", "taints",
    "bootstrapArguments", "userData", "volumes", "spotPrice", "mixedInstancesPolicy"] v
  let clusterName ← r.default? "clusterName" D.text? ""
  let image ← r.default? "image" D.text? ""
  let instanceType ← r.default? "instanceType" D.text? ""
  let labels ← r.default? "labels" (Table.decode? D) ∅
  let taints ← r.default? "taints" (D.list? (Taint.decode? D)) []
  let bootstrapArguments ← r.default? "bootstrapArguments" D.text? ""
  let userData ← r.default? "userData" (D.list? (UserDataStage.decode? D)) []
  let volumes ← r.default? "volumes" (D.list? (Volume.decode? D)) []
  let spotPrice ← r.optional? D "spotPrice" D.text?
  let mixedInstancesPolicy ←
    r.optional? D "mixedInstancesPolicy" (MixedInstancesPolicy.decode? D)
  some { clusterName, image, instanceType, labels, taints, bootstrapArguments, userData,
         volumes, spotPrice, mixedInstancesPolicy }

/-! ## The resource -/

/-- The size of a group and its node configuration. -/
def NodeScaling.decode? (v : α) : Option NodeScaling := do
  let r ← D.record? ["minSize", "maxSize", "configuration"] v
  let minSize ← r.default? "minSize" D.int64? 0
  let maxSize ← r.default? "maxSize" D.int64? 0
  let configuration ← r.default? "configuration" (NodeConfiguration.decode? D) {}
  some { minSize, maxSize, configuration }

/-- A spec. -/
def GroupSpec.decode? (v : α) : Option GroupSpec := do
  let r ← D.record? ["provisioner", "locked", "strategy", "eks"] v
  let provisioner ← r.default? "provisioner" D.text? ""
  let locked ← r.optional? D "locked" D.flag?
  let strategy ← r.optional? D "strategy" (UpgradeStrategy.decode? D)
  let eks ← r.default? "eks" (NodeScaling.decode? D) {}
  some { provisioner, locked, strategy, eks }

/-- A status. -/
def GroupStatus.decode? (v : α) : Option GroupStatus := do
  let r ← D.record? ["provisioner", "strategy", "currentState", "activeScalingGroupName",
    "activeLaunchConfigurationName"] v
  let provisioner ← r.default? "provisioner" D.text? ""
  let strategy ← r.default? "strategy" D.text? ""
  let currentState ← r.default? "currentState" (ReconcileState.decode? D) .init
  let activeScalingGroupName ← r.optional? D "activeScalingGroupName" D.text?
  let activeLaunchConfigurationName ←
    r.optional? D "activeLaunchConfigurationName" D.text?
  some { provisioner, strategy, currentState, activeScalingGroupName,
         activeLaunchConfigurationName }

/-- Metadata. -/
def Metadata.decode? (v : α) : Option Metadata := do
  let r ← D.openRecord? v
  let annotations ← r.optional? D "annotations" (Table.decode? D)
  let creationTimestamp ← r.optional? D "creationTimestamp" (Instant.decode? D)
  let deletionTimestamp ← r.optional? D "deletionTimestamp" (Instant.decode? D)
  let finalizers ← r.optional? D "finalizers" (D.list? D.text?)
  let generation ← r.optional? D "generation" D.int64?
  let labels ← r.optional? D "labels" (Table.decode? D)
  let name ← r.optional? D "name" D.text?
  let namespaceName ← r.optional? D "namespace" D.text?
  let resourceVersion ← r.optional? D "resourceVersion" D.text?
  let uid ← r.optional? D "uid" D.text?
  some { annotations, creationTimestamp, deletionTimestamp, finalizers, generation, labels,
         name, namespaceName, resourceVersion, uid }

/-- An instance group. -/
def InstanceGroup.decode? (v : α) : Option InstanceGroup := do
  let r ← D.record? ["apiVersion", "kind", "metadata", "spec", "status"] v
  let apiVersion ← r.default? "apiVersion" D.text? "instancemgr.keikoproj.io/v1alpha1"
  let kind ← r.default? "kind" D.text? InstanceGroup.expectedKind
  let metadata ← r.default? "metadata" (Metadata.decode? D) {}
  let spec ← r.default? "spec" (GroupSpec.decode? D) {}
  let status ← r.default? "status" (GroupStatus.decode? D) {}
  some { apiVersion, kind, metadata, spec, status }

end WorkerGroup
