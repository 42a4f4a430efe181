/-
Resource names: what the cloud resources of a group are called.

Every name starts from one text, the resource prefix: the cluster, the namespace and the
name with hyphens between them. The scaling group and the launch template carry it as it
is; the role of the nodes carries as much of it as a role's name may have; a launch
configuration carries it with the second it was made.
-/
import WorkerGroup.InstanceGroup
import WorkerGroup.Instant.Text

set_option autoImplicit false

namespace WorkerGroup.ResourceNames

/-- The most characters the name of a role may have. -/
def maxRoleNameLength : Nat := 64

/-- The text every name starts from. -/
def resourcePrefix (clusterName namespaceName name : String) : String :=
  clusterName ++ "-" ++ namespaceName ++ "-" ++ name

/-- The resource prefix of a group. -/
def prefixOf (g : InstanceGroup) : String :=
  resourcePrefix g.configuration.clusterName g.namespaceName g.name

/-- The name of the node role. -/
def roleName (resourcePrefix : String) : String :=
  String.ofList (resourcePrefix.toList.take maxRoleNameLength)

/-- The name of a launch configuration made at a second. -/
def launchConfigurationName (resourcePrefix : String) (t : Instant) : String :=
  resourcePrefix ++ "-" ++ t.stamp

end WorkerGroup.ResourceNames
