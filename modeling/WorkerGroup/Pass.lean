/-
Passes: one reconcile pass over an instance group, as a state.

A pass holds the group, the snapshot of the cloud it was handed, if any, and the OS
family once it has been resolved. What names the group's resources is fixed when the
pass starts: it is computed from the group as it was handed in and never again.

Everything that is asked of a pass is first a function of its state, without any effect:
the family, the bootstrap parameters, the pool, the tags. Some questions also leave a
trace behind. The family is kept so that it is resolved, and reported on, once; the
snapshot is made on first use; the pool is written down on the snapshot. Those traces
are functions from pass to pass of their own, and `WorkerGroup.Pass.Step` says which
question leaves which.

The family is kept until the group is edited. Recording a state changes the group too,
but nothing the family depends on, so the family stays.
-/
import WorkerGroup.Bootstrap.Parameters
import WorkerGroup.Discovered
import WorkerGroup.Failure
import WorkerGroup.Metrics
import WorkerGroup.NodeRole
import WorkerGroup.OsFamily.Resolution
import WorkerGroup.ResourceNames
import WorkerGroup.Settings
import WorkerGroup.Tags
import WorkerGroup.Text.Quoted

set_option autoImplicit false

namespace WorkerGroup

/-- A reconcile pass over an instance group. -/
structure Pass where
  group : InstanceGroup
  /-- The snapshot, once there is one. -/
  discovered : Option DiscoveredState
  /-- The family, once it was resolved and as long as the group was not edited. -/
  family : Option OsFamily
  resourcePrefix : String
  configRetention : UInt64
  disableWindowsClusterIp : Bool
deriving DecidableEq

namespace Pass

/-! ## Names, fixed at the start -/

/-- The name of the scaling group. -/
def scalingGroupName (p : Pass) : String :=
  p.resourcePrefix

/-- The name of the launch template. -/
def launchTemplateName (p : Pass) : String :=
  p.resourcePrefix

/-- The name of the node role. -/
def roleName (p : Pass) : String :=
  ResourceNames.roleName p.resourcePrefix

/-- The name of a launch configuration made at an instant. -/
def launchConfigurationName (p : Pass) (t : Instant) : String :=
  ResourceNames.launchConfigurationName p.resourcePrefix t

/-! ## Changes -/

/-- The pass with its group edited. An edit may touch anything, so the family that was
resolved is forgotten. -/
def edit (f : InstanceGroup → InstanceGroup) (p : Pass) : Pass :=
  { p with group := f p.group, family := none }

/-- The pass with a state on the status of its group. -/
def recordState (s : ReconcileState) (p : Pass) : Pass :=
  { p with group := p.group.withState s }

/-- What the metrics sink is told when a state is recorded. -/
def stateReport (s : ReconcileState) (p : Pass) : StateReport :=
  ⟨p.group.groupName.text, s.name⟩

/-- The snapshot; the one without anything in it when none was set. -/
def snapshot (p : Pass) : DiscoveredState :=
  p.discovered.getD {}

/-- The pass with another snapshot. -/
def withSnapshot (d : DiscoveredState) (p : Pass) : Pass :=
  { p with discovered := some d }

/-! ## The OS family -/

/-- The family: the one that was resolved before, or the one the group has now. -/
def osFamily (p : Pass) : OsFamily :=
  p.family.getD (OsFamily.ofGroup p.group).family

/-- What there is to report about the family: nothing when it was resolved before. -/
def osFamilyWarnings (p : Pass) : List Warning :=
  if p.family.isSome then [] else (OsFamily.ofGroup p.group).warnings

/-- The pass with the family kept. -/
def keepFamily (p : Pass) : Pass :=
  { p with family := some p.osFamily }

/-! ## Answers -/

/-- What the bootstrap parameters depend on besides the group and its family: the cluster
of the snapshot, unknown when there is none, and the offering of the group's type. -/
def bootstrapInputs (p : Pass) : Bootstrap.Inputs :=
  { cluster := (p.discovered.bind (·.cluster)).getD {}
    offering := p.discovered.bind (·.offering? p.group.configuration.instanceType)
    disableWindowsClusterIp := p.disableWindowsClusterIp }

/-- The bootstrap parameters of the group's nodes. -/
def userData (p : Pass) : Bootstrap.Parameters :=
  Bootstrap.resolve p.group p.osFamily p.bootstrapInputs

/-- What there is to report about the bootstrap parameters, the family first. -/
def userDataWarnings (p : Pass) : List Warning :=
  p.osFamilyWarnings ++ Bootstrap.resolveWarnings p.group p.osFamily p.bootstrapInputs

/-- The pool a policy asks for. Types that are listed win and make a pool under the
group's own type; otherwise the pool is derived from the offerings, if the policy names
a kind of pool there is. -/
def poolOf (c : NodeConfiguration) (offerings : List Offering) : Option InstancePool :=
  c.mixedInstancesPolicy.bind fun policy =>
    let kind := policy.instancePool.bind PoolKind.ofName?
    if policy.instanceTypes.isEmpty then
      kind.map fun
        | .subFamilyFlexible => InstancePool.subFamilyFlexible offerings
    else
      some (.ofInstanceTypes (kind.getD .subFamilyFlexible) c.instanceType
        policy.instanceTypes)

/-- The pool of the group, over the offerings of the snapshot. -/
def instancePool (p : Pass) : Option InstancePool :=
  poolOf p.group.configuration p.snapshot.offerings

/-- The tags of the group's scaling group. -/
def scalingGroupTags (p : Pass) : List Tag :=
  Tag.ofScalingGroup p.group p.resourcePrefix (Annotations.autoscaler p.group.annotations)
    (Bootstrap.nodeLabels p.group).entries

/-- The managed policies of the group's node role. -/
def managedPolicies (p : Pass) : List String :=
  NodeRole.managedPolicies (Annotations.irsa p.group.annotations)

/-- The names of the launch configurations that are not needed any more. -/
def configurationsToPrune (p : Pass) : List String :=
  LaunchConfiguration.toPrune p.snapshot.launchConfigurations
    p.snapshot.activeLaunchConfiguration p.configRetention.toNat

/-- The state the pass starts from. -/
def initialState (p : Pass) : ReconcileState :=
  p.snapshot.initialState p.group.isDeleting

/-- The pass as one line for a log. -/
def debugText (p : Pass) : String :=
  "EksInstanceGroupContext \x7b resource_prefix: " ++ Text.quoted p.resourcePrefix ++
    ", config_retention: " ++ toString p.configRetention ++
    ", disable_win_cluster_injection: " ++ toString p.disableWindowsClusterIp ++ ", .. \x7d"

/-! ## The start -/

/-- The answer of a metrics sink to a state it was told. -/
abbrev Verdict := Except SinkFailure Unit

/-- The provisioner that is written down on the status. -/
def provisionerName : String := "eks"

/-- The pass as it is before anything was recorded. -/
def prepare (g : InstanceGroup) (settings : Settings) : Pass :=
  { group := g
    discovered := none
    family := none
    resourcePrefix := ResourceNames.prefixOf g
    configRetention := settings.configRetention
    disableWindowsClusterIp := settings.disableWindowsClusterIp }

/-- A group with the provisioner and the type of its strategy written down. -/
def stamp (g : InstanceGroup) : InstanceGroup :=
  { g with status :=
    { g.status with provisioner := provisionerName, strategy := g.upgradeStrategy.kind } }

/-- What the metrics sink is told when a pass starts. -/
def startReport (g : InstanceGroup) (settings : Settings) : StateReport :=
  (prepare g settings).stateReport .init

/-- A pass over a group. It starts by recording that nothing was found out yet, and does
not start when the sink does not take that. -/
def start (g : InstanceGroup) (settings : Settings) (verdict : Verdict) :
    Except PassFailure Pass :=
  match verdict with
  | .ok () => .ok (((prepare g settings).recordState .init).edit stamp)
  | .error cause => .error (.sink cause)

end Pass

end WorkerGroup
