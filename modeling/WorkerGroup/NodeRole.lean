/-
Node roles: the managed policies that nodes need.
-/
set_option autoImplicit false

namespace WorkerGroup.NodeRole

/-- The policies every node needs. -/
def basePolicies : List String :=
  ["AmazonEKSWorkerNodePolicy", "AmazonEC2ContainerRegistryReadOnly"]

/-- The policy of the network plugin, which nodes need unless service accounts have roles
of their own. -/
def networkPolicy : String := "AmazonEKS_CNI_Policy"

/-- The policies of a group's node role. -/
def managedPolicies (irsa : Bool) : List String :=
  if irsa then basePolicies else basePolicies ++ [networkPolicy]

end WorkerGroup.NodeRole
