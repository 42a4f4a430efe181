/-
Reports: everything a pass derives for a group, in one record.
-/
import WorkerGroup.Pass

set_option autoImplicit false

namespace WorkerGroup

/-- What a pass derived for a group. -/
structure Report where
  instanceGroup : String
  state : ReconcileState
  locked : Bool
  osFamily : OsFamily
  upgradeStrategy : String
  resourcePrefix : String
  scalingGroupName : String
  launchTemplateName : String
  launchConfigurationName : String
  roleName : String
  managedPolicies : List String
  tags : List Tag
  userData : Bootstrap.Parameters
  instancePool : Option InstancePool
deriving DecidableEq

namespace Report

/-- The report of a pass, with the name of a launch configuration made at an instant. -/
def ofPass (p : Pass) (t : Instant) : Report :=
  { instanceGroup := p.group.groupName.text
    state := p.group.state
    locked := p.group.isLocked
    osFamily := p.osFamily
    upgradeStrategy := p.group.upgradeStrategy.kind
    resourcePrefix := p.resourcePrefix
    scalingGroupName := p.scalingGroupName
    launchTemplateName := p.launchTemplateName
    launchConfigurationName := p.launchConfigurationName t
    roleName := p.roleName
    managedPolicies := p.managedPolicies
    tags := p.scalingGroupTags
    userData := p.userData
    instancePool := p.instancePool }

/-- The pass after its report was made: its family is kept and its pool written down. -/
def passAfter (p : Pass) : Pass :=
  p.keepFamily.withSnapshot { p.snapshot with instancePool := p.instancePool }

/-- A report as JSON; a pool is left out when there is none. -/
def encode (r : Report) : Json :=
  .obj <|
    [("instanceGroup", .str r.instanceGroup), ("state", r.state.encode),
     ("locked", .bool r.locked), ("osFamily", .str r.osFamily.name),
     ("upgradeStrategy", .str r.upgradeStrategy),
     ("resourcePrefix", .str r.resourcePrefix),
     ("scalingGroupName", .str r.scalingGroupName),
     ("launchTemplateName", .str r.launchTemplateName),
     ("launchConfigurationName", .str r.launchConfigurationName),
     ("roleName", .str r.roleName),
     ("managedPolicies", Json.ofList .str r.managedPolicies),
     ("tags", Json.ofList Tag.encode r.tags), ("userData", r.userData.encode)] ++
    Json.member? "instancePool" InstancePool.encode r.instancePool

end Report

end WorkerGroup
