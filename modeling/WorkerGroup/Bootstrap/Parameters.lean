/-
Bootstrap parameters: everything a renderer of node user data must put in.

The parameters have two shapes, one per bootstrap contract. In the script shape the
commands, the bootstrap arguments and the kubelet arguments are filled in and there is
no node configuration document; in the node configuration shape there is a document and
all of those stay empty. A family that takes a document falls back to the script shape,
with a warning, when the group has none: an empty document would configure nothing.
-/
import WorkerGroup.Annotations
import WorkerGroup.Bootstrap.KubeletArguments
import WorkerGroup.Bootstrap.Labels
import WorkerGroup.Bootstrap.Payload
import WorkerGroup.Bootstrap.PodCapacity
import WorkerGroup.Cluster
import WorkerGroup.InstanceGroup.Decode
import WorkerGroup.InstanceGroup.Encode

set_option autoImplicit false

namespace WorkerGroup.Bootstrap

/-! ## The parameters -/

/-- A file system to create and mount. -/
structure MountedVolume where
  fileSystem : String
  device : String
  mount : String
  persistance : Bool
deriving DecidableEq, Inhabited

/-- What goes into the user data of a node. -/
structure Parameters where
  apiEndpoint : String := ""
  clusterCa : String := ""
  clusterName : String := ""
  nodeLabels : Table String := ∅
  nodeTaints : List Taint := []
  kubeletExtraArgs : String := ""
  arguments : String := ""
  preBootstrap : List String := []
  postBootstrap : List String := []
  mountOptions : List MountedVolume := []
  maxPods : Option Int64 := none
  /-- The address of the cluster's name service, on Windows nodes only. -/
  clusterIp : Option String := none
  nodeConfigYaml : Option String := none
deriving DecidableEq, Inhabited

/-- What bootstrap parameters depend on besides the group and its family. -/
structure Inputs where
  cluster : ClusterInfo
  /-- The offering of the group's instance type, if it is known. -/
  offering : Option Offering
  disableWindowsClusterIp : Bool
deriving DecidableEq

/-! ## Resolving them -/

/-- The volumes of a group that are to be mounted. -/
def mountedVolumes (volumes : List Volume) : List MountedVolume :=
  volumes.filterMap fun v => v.mountOptions.map fun m =>
    { fileSystem := m.fileSystem, device := v.name, mount := m.mount,
      persistance := m.persistance }

/-- The pod capacity of a group's nodes, which is only set when pods have a network of
their own and the offering is known, and what was wrong with the host pods. -/
def resolveMaxPods (annotations : Table String) (offering : Option Offering) :
    Option Int64 × List Warning :=
  match offering with
  | none => (none, [])
  | some o =>
    if Annotations.customNetworking annotations then
      let hostPods := Annotations.hostPods annotations
      (some (maxPods (.ofOffering o) hostPods.1 (Annotations.prefixAssignment annotations)),
        hostPods.2)
    else (none, [])

/-- The contract that is followed: the family's, unless it takes a document and there is
none. -/
def followedContract (family : OsFamily) (payload : Payload) : BootstrapContract :=
  if payload.nodeConfigYaml = "" then .script else family.contract

/-- What both shapes have in common. -/
def sharedParameters (g : InstanceGroup) (family : OsFamily) (inputs : Inputs) : Parameters :=
  { apiEndpoint := inputs.cluster.endpoint
    clusterCa := inputs.cluster.certificateAuthority
    clusterName := g.configuration.clusterName
    nodeLabels := nodeLabels g
    nodeTaints := g.configuration.taints
    mountOptions := mountedVolumes g.configuration.volumes
    maxPods := (resolveMaxPods g.annotations inputs.offering).1
    clusterIp := if family.isWindows && !inputs.disableWindowsClusterIp
      then inputs.cluster.dnsClusterIp else none }

/-- The bootstrap parameters of a group's nodes. -/
def resolve (g : InstanceGroup) (family : OsFamily) (inputs : Inputs) : Parameters :=
  let payload := Payload.ofStages g.configuration.userData
  let shared := sharedParameters g family inputs
  match followedContract family payload with
  | .script =>
    { shared with
      kubeletExtraArgs := kubeletArguments shared.nodeLabels shared.nodeTaints
      arguments := g.configuration.bootstrapArguments
      preBootstrap := payload.preBootstrap
      postBootstrap := payload.postBootstrap }
  | .nodeConfig => { shared with nodeConfigYaml := some payload.nodeConfigYaml }

/-- What there is to report about resolving them. -/
def resolveWarnings (g : InstanceGroup) (family : OsFamily) (inputs : Inputs) :
    List Warning :=
  let payload := Payload.ofStages g.configuration.userData
  (resolveMaxPods g.annotations inputs.offering).2 ++
    if family.contract = .nodeConfig ∧ payload.nodeConfigYaml = "" then
      [.missingNodeConfig family]
    else []

/-! ## As data -/

/-- A file system to mount; every field is required. -/
def MountedVolume.decode? {α : Type} (D : Schema.Dialect α) (v : α) :
    Option MountedVolume := do
  let r ← D.fullRecord? ["file_system", "device", "mount", "persistance"] v
  let fileSystem ← r.required? "file_system" D.text?
  let device ← r.required? "device" D.text?
  let mount ← r.required? "mount" D.text?
  let persistance ← r.required? "persistance" D.flag?
  some { fileSystem, device, mount, persistance }

/-- A file system to mount as JSON. -/
def MountedVolume.encode (m : MountedVolume) : Json :=
  .obj [("file_system", .str m.fileSystem), ("device", .str m.device),
    ("mount", .str m.mount), ("persistance", .bool m.persistance)]

/-- Bootstrap parameters; every field that is not optional is required. -/
def Parameters.decode? {α : Type} (D : Schema.Dialect α) (v : α) : Option Parameters := do
  let r ← D.fullRecord? ["api_endpoint", "cluster_ca", "cluster_name", "node_labels",
    "node_taints", "kubelet_extra_args", "arguments", "pre_bootstrap", "post_bootstrap",
    "mount_options", "max_pods", "cluster_ip", "node_config_yaml"] v
  let apiEndpoint ← r.required? "api_endpoint" D.text?
  let clusterCa ← r.required? "cluster_ca" D.text?
  let clusterName ← r.required? "cluster_name" D.text?
  let nodeLabels ← r.required? "node_labels" (Table.decode? D)
  let nodeTaints ← r.required? "node_taints" (D.list? (Taint.decode? D))
  let kubeletExtraArgs ← r.required? "kubelet_extra_args" D.text?
  let arguments ← r.required? "arguments" D.text?
  let preBootstrap ← r.required? "pre_bootstrap" (D.list? D.text?)
  let postBootstrap ← r.required? "post_bootstrap" (D.list? D.text?)
  let mountOptions ← r.required? "mount_options" (D.list? (MountedVolume.decode? D))
  let maxPods ← r.optional? D "max_pods" D.int64?
  let clusterIp ← r.optional? D "cluster_ip" D.text?
  let nodeConfigYaml ← r.optional? D "node_config_yaml" D.text?
  some { apiEndpoint, clusterCa, clusterName, nodeLabels, nodeTaints, kubeletExtraArgs,
         arguments, preBootstrap, postBootstrap, mountOptions, maxPods, clusterIp,
         nodeConfigYaml }

/-- Bootstrap parameters as JSON, null for what is not set. -/
def Parameters.encode (p : Parameters) : Json :=
  .obj [("api_endpoint", .str p.apiEndpoint), ("cluster_ca", .str p.clusterCa),
    ("cluster_name", .str p.clusterName), ("node_labels", p.nodeLabels.encode),
    ("node_taints", Json.ofList Taint.encode p.nodeTaints),
    ("kubelet_extra_args", .str p.kubeletExtraArgs), ("arguments", .str p.arguments),
    ("pre_bootstrap", Json.ofList .str p.preBootstrap),
    ("post_bootstrap", Json.ofList .str p.postBootstrap),
    ("mount_options", Json.ofList MountedVolume.encode p.mountOptions),
    ("max_pods", Json.ofOption (fun n => .int n.toInt) p.maxPods),
    ("cluster_ip", Json.ofOption .str p.clusterIp),
    ("node_config_yaml", Json.ofOption .str p.nodeConfigYaml)]

end WorkerGroup.Bootstrap
