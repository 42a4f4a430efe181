/-
What a run prints holds the report of its pass.

The report is printed as one object of JSON, without blanks or over several lines. Under each
name of a report there is one value in it, and that says what the report says
(`Report.heldBy_encode`); what was not set among the bootstrap parameters is null, while a pool
that is not there has no name either. Nothing is lost in print: a reader of JSON finds this very
object in the text, whichever way it was printed (`printed_opensWith`).
-/
import WorkerGroup.CommandLine.Run
import WorkerGroup.Proofs.Discovered.RoundTrip

set_option autoImplicit false

namespace WorkerGroup

/-! ## What stands under a key -/

namespace Json

/-- The values that stand in an object under a key. In JSON a key can be repeated. -/
def under (key : String) : Json → List Json
  | .obj members => (members.filter fun m => m.1 == key).map Prod.snd
  | _ => []

section

variable {α : Type} (encode : α → Json) (o : Option α)

/-- What is written for nothing is null. -/
theorem ofOption_eq_elim : ofOption encode o = o.elim .null encode := by
  cases o <;> rfl

/-- A member that may be left out stands under its own name only. -/
theorem filter_member? (name key : String) :
    (member? name encode o).filter (fun m => m.1 == key) =
      if name = key then member? name encode o else [] := by
  cases o with
  | none => exact (ite_self []).symm
  | some a => by_cases own : name = key <;> simp [member?, own]

theorem map_snd_member? (name : String) :
    (member? name encode o).map Prod.snd = (o.map encode).toList := by
  cases o <;> rfl

end

end Json

/-! ## Reports as objects -/

/-- An object with one value under each name of bootstrap parameters, null for what is not
set. -/
structure Bootstrap.Parameters.HeldBy (p : Parameters) (v : Json) : Prop where
  apiEndpoint : v.under "api_endpoint" = [.str p.apiEndpoint]
  clusterCa : v.under "cluster_ca" = [.str p.clusterCa]
  clusterName : v.under "cluster_name" = [.str p.clusterName]
  nodeLabels : v.under "node_labels" = [.obj (p.nodeLabels.entries.map fun e => (e.1, .str e.2))]
  nodeTaints : v.under "node_taints" = [.arr (p.nodeTaints.map Taint.encode)]
  kubeletExtraArgs : v.under "kubelet_extra_args" = [.str p.kubeletExtraArgs]
  arguments : v.under "arguments" = [.str p.arguments]
  preBootstrap : v.under "pre_bootstrap" = [.arr (p.preBootstrap.map .str)]
  postBootstrap : v.under "post_bootstrap" = [.arr (p.postBootstrap.map .str)]
  mountOptions : v.under "mount_options" = [.arr (p.mountOptions.map MountedVolume.encode)]
  maxPods : v.under "max_pods" = [p.maxPods.elim .null fun n => .int n.toInt]
  clusterIp : v.under "cluster_ip" = [p.clusterIp.elim .null .str]
  nodeConfigYaml : v.under "node_config_yaml" = [p.nodeConfigYaml.elim .null .str]

/-- An object with one value under each name of a report, and none for a pool that is not
there. -/
structure Report.HeldBy (r : Report) (v : Json) : Prop where
  instanceGroup : v.under "instanceGroup" = [.str r.instanceGroup]
  state : v.under "state" = [.str r.state.name]
  locked : v.under "locked" = [.bool r.locked]
  osFamily : v.under "osFamily" = [.str r.osFamily.name]
  upgradeStrategy : v.under "upgradeStrategy" = [.str r.upgradeStrategy]
  resourcePrefix : v.under "resourcePrefix" = [.str r.resourcePrefix]
  scalingGroupName : v.under "scalingGroupName" = [.str r.scalingGroupName]
  launchTemplateName : v.under "launchTemplateName" = [.str r.launchTemplateName]
  launchConfigurationName : v.under "launchConfigurationName" = [.str r.launchConfigurationName]
  roleName : v.under "roleName" = [.str r.roleName]
  managedPolicies : v.under "managedPolicies" = [.arr (r.managedPolicies.map .str)]
  tags : v.under "tags" =
    [.arr (r.tags.map fun t => .obj [("key", .str t.key), ("value", .str t.value)])]
  userData : ∃ u, v.under "userData" = [u] ∧ r.userData.HeldBy u
  instancePool : v.under "instancePool" = (r.instancePool.map InstancePool.encode).toList

theorem Bootstrap.Parameters.heldBy_encode (p : Parameters) : p.HeldBy p.encode := by
  constructor <;> simp [Json.under, encode, Json.ofList, Table.encode, Json.ofOption_eq_elim]

/-- **The object that a report is printed as holds the report.** -/
theorem Report.heldBy_encode (r : Report) : r.HeldBy r.encode := by
  have userData := r.userData.heldBy_encode
  constructor <;>
    simp [Json.under, encode, Json.ofList, Json.filter_member?, Json.map_snd_member?,
      ReconcileState.encode, Tag.encode, userData]

theorem Report.encode_typed (r : Report) : r.encode.Typed := by
  simp [encode, ReconcileState.encode, Tag.encode, Bootstrap.Parameters.encode_typed]

/-! ## Printed texts -/

namespace CommandLine

/-- A text that opens with a value of JSON, which a line feed and some other text follow. -/
def OpensWith (text : String) (v : Json) (behind : String) : Prop :=
  ∃ opening, Json.parse? opening = some v ∧ text = opening ++ "\n" ++ behind

/-- **What is printed opens with the report**, whichever way it is printed. -/
theorem printed_opensWith (a : Arguments) (t : Instant) (p : Pass) (gauge : Collector) :
    OpensWith (printed a t p gauge) (Report.ofPass p t).encode
      (if a.metrics then gauge.render else "") := by
  have typed := (Report.ofPass p t).encode_typed
  refine ⟨_, ?_, rfl⟩
  cases a.pretty with
  | false => exact Json.parse?_compactText typed
  | true => exact Json.parse?_indentedText typed

end CommandLine

end WorkerGroup
