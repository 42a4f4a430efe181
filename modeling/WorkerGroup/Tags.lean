/-
Tags: what a scaling group is marked with.

Five tags say whose the scaling group is. When the cluster autoscaler manages it, two
more let the autoscaler find it, and one per label and taint tells the autoscaler what a
node would register with, so that it can scale up from no nodes at all.
-/
import WorkerGroup.InstanceGroup
import WorkerGroup.Json
import WorkerGroup.Schema.Dialect

set_option autoImplicit false

namespace WorkerGroup

/-- A key and its value. -/
structure Tag where
  key : String
  value : String
deriving DecidableEq, Repr, Inhabited

namespace Tag

/-! ## Keys -/

/-- The key of ownership by a cluster. -/
def clusterKey (clusterName : String) : String := "kubernetes.io/cluster/" ++ clusterName

/-- The key by which the autoscaler finds what it manages. -/
def autoscalerEnabledKey : String := "k8s.io/cluster-autoscaler/enabled"

/-- The key by which the autoscaler finds what it manages in a cluster. -/
def autoscalerClusterKey (clusterName : String) : String :=
  "k8s.io/cluster-autoscaler/" ++ clusterName

/-- The key of a label on the nodes to come. -/
def labelKey (label : String) : String :=
  "k8s.io/cluster-autoscaler/node-template/label/" ++ label

/-- The key of a taint on the nodes to come. -/
def taintKey (taint : String) : String :=
  "k8s.io/cluster-autoscaler/node-template/taint/" ++ taint

/-! ## The tags of a scaling group -/

/-- The tags that say whose a scaling group is. -/
def ownership (g : InstanceGroup) (resourcePrefix : String) : List Tag :=
  [⟨"Name", resourcePrefix⟩,
   ⟨"instancegroups.keikoproj.io/ClusterName", g.configuration.clusterName⟩,
   ⟨"instancegroups.keikoproj.io/InstanceGroup", g.name⟩,
   ⟨"instancegroups.keikoproj.io/Namespace", g.namespaceName⟩,
   ⟨clusterKey g.configuration.clusterName, "owned"⟩]

/-- The tags by which the autoscaler finds a scaling group. -/
def discovery (clusterName : String) : List Tag :=
  [⟨autoscalerEnabledKey, "true"⟩, ⟨autoscalerClusterKey clusterName, "owned"⟩]

/-- The tag of a label. -/
def ofLabel (label : String × String) : Tag :=
  ⟨labelKey label.1, label.2⟩

/-- The tag of a taint: its value, empty when it has none, and its effect. -/
def ofTaint (t : Taint) : Tag :=
  ⟨taintKey t.key, t.value.getD "" ++ ":" ++ t.effect⟩

/-- The tags of a group's scaling group, for the labels its nodes carry. -/
def ofScalingGroup (g : InstanceGroup) (resourcePrefix : String) (autoscaler : Bool)
    (labels : List (String × String)) : List Tag :=
  ownership g resourcePrefix ++
    if autoscaler then
      discovery g.configuration.clusterName ++ labels.map ofLabel ++
        g.configuration.taints.map ofTaint
    else []

/-! ## As data -/

/-- A tag; both fields are required. -/
def decode? {α : Type} (D : Schema.Dialect α) (v : α) : Option Tag := do
  let r ← D.fullRecord? ["key", "value"] v
  let key ← r.required? "key" D.text?
  let value ← r.required? "value" D.text?
  some { key, value }

/-- A tag as JSON. -/
def encode (t : Tag) : Json :=
  .obj [("key", .str t.key), ("value", .str t.value)]

end Tag

end WorkerGroup
