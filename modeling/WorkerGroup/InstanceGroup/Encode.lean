/-
Writing an instance group as JSON.

Fields are written in the order their record declares them. A field with a default is
always written, an optional one only when it holds something, so a written group shows
the difference between "empty" and "not there". Timestamps are written in whole seconds.
-/
import WorkerGroup.InstanceGroup
import WorkerGroup.Instant.Text
import WorkerGroup.Json

set_option autoImplicit false

namespace WorkerGroup

open Json (member?)

/-! ## Values -/

/-- An instant of a resource, in whole seconds. -/
def Instant.encodeWhole (t : Instant) : Json :=
  .str t.wholeSecondText

/-- A map from texts to texts. -/
def Table.encode (t : Table String) : Json :=
  .obj (t.entries.map fun e => (e.1, .str e.2))

/-- A reconcile state, by its name. -/
def ReconcileState.encode (s : ReconcileState) : Json :=
  .str s.name

/-- A number of nodes or a share of them. -/
def NodeShare.encode : NodeShare → Json
  | .count n => .int n.toInt
  | .text s => .str s

/-! ## Upgrade strategies -/

/-- The settings of a rolling update. -/
def RollingUpdate.encode (u : RollingUpdate) : Json :=
  .obj (member? "maxUnavailable" NodeShare.encode u.maxUnavailable)

/-- The settings of a replacement by a custom resource. -/
def CustomResourceUpdate.encode (u : CustomResourceUpdate) : Json :=
  .obj <|
    [("crdName", .str u.crdName), ("spec", .str u.spec),
     ("statusJsonPath", .str u.statusJsonPath),
     ("statusSuccessString", .str u.statusSuccessString),
     ("statusFailureString", .str u.statusFailureString)] ++
    member? "concurrencyPolicy" .str u.concurrencyPolicy ++
    member? "maxRetries" (fun n => .int n.toInt) u.maxRetries

/-- An upgrade strategy. -/
def UpgradeStrategy.encode (s : UpgradeStrategy) : Json :=
  .obj <|
    [("type", .str s.kind)] ++
    member? "rollingUpdate" RollingUpdate.encode s.rollingUpdate ++
    member? "crd" CustomResourceUpdate.encode s.crd

/-! ## Node configuration -/

/-- A taint. -/
def Taint.encode (t : Taint) : Json :=
  .obj <|
    [("effect", .str t.effect), ("key", .str t.key)] ++
    member? "timeAdded" Instant.encodeWhole t.timeAdded ++
    member? "value" .str t.value

/-- A piece of user data. -/
def UserDataStage.encode (s : UserDataStage) : Json :=
  .obj [("name", .str s.name), ("stage", .str s.stage), ("data", .str s.data)]

/-- The mount options of a volume. -/
def VolumeMount.encode (m : VolumeMount) : Json :=
  .obj [("fileSystem", .str m.fileSystem), ("mount", .str m.mount),
    ("persistance", .bool m.persistance)]

/-- A volume. -/
def Volume.encode (v : Volume) : Json :=
  .obj <|
    [("name", .str v.name), ("type", .str v.kind), ("size", .int v.size.toInt)] ++
    member? "mountOptions" VolumeMount.encode v.mountOptions

/-- A weighted instance type. -/
def WeightedType.encode (t : WeightedType) : Json :=
  .obj [("type", .str t.kind), ("weight", .str t.weight)]

/-- A mixed instances policy. -/
def MixedInstancesPolicy.encode (p : MixedInstancesPolicy) : Json :=
  .obj <|
    member? "strategy" .str p.strategy ++
    member? "instancePool" .str p.instancePool ++
    [("instanceTypes", Json.ofList WeightedType.encode p.instanceTypes)] ++
    member? "spotRatio" .str p.spotRatio

/-- A node configuration. -/
def NodeConfiguration.encode (c : NodeConfiguration) : Json :=
  .obj <|
    [("clusterName", .str c.clusterName), ("image", .str c.image),
     ("instanceType", .str c.instanceType), ("labels", c.labels.encode),
     ("taints", Json.ofList Taint.encode c.taints),
     ("bootstrapArguments", .str c.bootstrapArguments),
     ("userData", Json.ofList UserDataStage.encode c.userData),
     ("volumes", Json.ofList Volume.encode c.volumes)] ++
    member? "spotPrice" .str c.spotPrice ++
    member? "mixedInstancesPolicy" MixedInstancesPolicy.encode c.mixedInstancesPolicy

/-! ## The resource -/

/-- The size of a group and its node configuration. -/
def NodeScaling.encode (s : NodeScaling) : Json :=
  .obj [("minSize", .int s.minSize.toInt), ("maxSize", .int s.maxSize.toInt),
    ("configuration", s.configuration.encode)]

/-- A spec. -/
def GroupSpec.encode (s : GroupSpec) : Json :=
  .obj <|
    [("provisioner", .str s.provisioner)] ++
    member? "locked" .bool s.locked ++
    member? "strategy" UpgradeStrategy.encode s.strategy ++
    [("eks", s.eks.encode)]

/-- A status. -/
def GroupStatus.encode (s : GroupStatus) : Json :=
  .obj <|
    [("provisioner", .str s.provisioner), ("strategy", .str s.strategy),
     ("currentState", s.currentState.encode)] ++
    member? "activeScalingGroupName" .str s.activeScalingGroupName ++
    member? "activeLaunchConfigurationName" .str s.activeLaunchConfigurationName

/-- Metadata. -/
def Metadata.encode (m : Metadata) : Json :=
  .obj <|
    member? "annotations" Table.encode m.annotations ++
    member? "creationTimestamp" Instant.encodeWhole m.creationTimestamp ++
    member? "deletionTimestamp" Instant.encodeWhole m.deletionTimestamp ++
    member? "finalizers" (Json.ofList .str) m.finalizers ++
    member? "generation" (fun n => .int n.toInt) m.generation ++
    member? "labels" Table.encode m.labels ++
    member? "name" .str m.name ++
    member? "namespace" .str m.namespaceName ++
    member? "resourceVersion" .str m.resourceVersion ++
    member? "uid" .str m.uid

/-- An instance group. -/
def InstanceGroup.encode (g : InstanceGroup) : Json :=
  .obj [("apiVersion", .str g.apiVersion), ("kind", .str g.kind),
    ("metadata", g.metadata.encode), ("spec", g.spec.encode), ("status", g.status.encode)]

end WorkerGroup
