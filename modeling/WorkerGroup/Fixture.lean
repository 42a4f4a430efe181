/-
Fixtures: a group, a cluster and an offering to try passes on.

The group is a small complete one, and each function changes one thing about it, so an
example says only what it is about.
-/
import WorkerGroup.Cluster
import WorkerGroup.InstanceGroup
import WorkerGroup.Offering

set_option autoImplicit false

namespace WorkerGroup.Fixture

/-! ## Groups -/

/-- A small complete group of a name. -/
def group (namespaceName name : String) : InstanceGroup :=
  let base := InstanceGroup.named namespaceName name
  { base with spec :=
    { base.spec with eks :=
      { minSize := 1
        maxSize := 3
        configuration :=
          { clusterName := "prod"
            instanceType := "m5.large"
            image := "ami-0123456789abcdef0" } } } }

/-- The group that stands for any other. -/
def anyGroup : InstanceGroup :=
  group "kube-system" "workers-a"

/-- The group with its node configuration changed. -/
def configure (f : NodeConfiguration → NodeConfiguration) (g : InstanceGroup) : InstanceGroup :=
  g.withConfiguration (f g.configuration)

/-- The group in another cluster. -/
def cluster (name : String) : InstanceGroup → InstanceGroup :=
  configure fun c => { c with clusterName := name }

/-- The group with another instance type. -/
def instanceType (kind : String) : InstanceGroup → InstanceGroup :=
  configure fun c => { c with instanceType := kind }

/-- The group with a label. -/
def label (key item : String) : InstanceGroup → InstanceGroup :=
  configure fun c => { c with labels := c.labels.insert key item }

/-- The group with one more taint. -/
def taint (key : String) (value : Option String) (effect : String) :
    InstanceGroup → InstanceGroup :=
  configure fun c => { c with taints := c.taints ++ [{ effect, key, value }] }

/-- The group with one more piece of user data. -/
def userData (name stage data : String) : InstanceGroup → InstanceGroup :=
  configure fun c => { c with userData := c.userData ++ [{ name, stage, data }] }

/-- The group with its policy for mixing types changed, starting from an empty one. -/
def mix (f : MixedInstancesPolicy → MixedInstancesPolicy) : InstanceGroup → InstanceGroup :=
  configure fun c =>
    { c with mixedInstancesPolicy := some (f (c.mixedInstancesPolicy.getD {})) }

/-- The group with a kind of pool. -/
def instancePool (kind : String) : InstanceGroup → InstanceGroup :=
  mix fun policy => { policy with instancePool := some kind }

/-- The group with types listed one by one. -/
def mixedInstanceTypes (types : List WeightedType) : InstanceGroup → InstanceGroup :=
  mix fun policy => { policy with instanceTypes := types }

/-- The group with an upgrade strategy. -/
def strategy (s : UpgradeStrategy) (g : InstanceGroup) : InstanceGroup :=
  { g with spec := { g.spec with strategy := some s } }

/-- The group locked or explicitly not. -/
def locked (b : Bool) (g : InstanceGroup) : InstanceGroup :=
  { g with spec := { g.spec with locked := some b } }

/-- The group marked for deletion at an instant. -/
def deleting (t : Instant) (g : InstanceGroup) : InstanceGroup :=
  { g with metadata := { g.metadata with deletionTimestamp := some t } }

/-! ## What a group is resolved against -/

/-- A cluster with a name service. -/
def clusterInfo : ClusterInfo :=
  { name := "prod"
    endpoint := "https://prod.eks.amazonaws.com"
    certificateAuthority := "Y2EtYnVuZGxl"
    version := "1.30"
    dnsClusterIp := some "172.20.0.10" }

/-- An offering of a small instance type. -/
def offering (kind architecture : String) (vcpus : UInt32) (memoryMib : UInt64) : Offering :=
  { instanceType := kind
    architectures := [architecture]
    vcpus
    memoryMib
    maxEnis := 3
    ipv4PerEni := 10 }

end WorkerGroup.Fixture
