/-
Pod capacity: how many pods a node can run when pods have a network of their own.

The first network interface serves the node, and the first address of each further
interface serves the interface; what is left serves pods, on top of those that use the
host's network. When whole prefixes are assigned, each address slot stands for sixteen
addresses, and the number is capped by what a node of the size can manage. It is counted in
signed words of 64 bits, and a number that none holds wraps around.
-/
import WorkerGroup.Offering

set_option autoImplicit false

namespace WorkerGroup.Bootstrap

/-- What the network of an instance type can hold. -/
structure NetworkLimits where
  maxEnis : UInt32
  ipv4PerEni : UInt32
  vcpus : UInt32
deriving DecidableEq

/-- The network limits of an offering. -/
def NetworkLimits.ofOffering (o : Offering) : NetworkLimits :=
  ⟨o.maxEnis, o.ipv4PerEni, o.vcpus⟩

/-- The addresses in an assigned prefix. -/
def addressesPerPrefix : Int64 := 16

/-- The most pods a node may run when prefixes are assigned. -/
def podCeiling (vcpus : UInt32) : Int64 :=
  if vcpus < 30 then 110 else 250

/-- All of a number but the first; of none there is none left. -/
def butFirst (n : UInt32) : Int64 :=
  Int64.ofNat (n.toNat - 1)

/-- The address slots that pods can use. -/
def podSlots (limits : NetworkLimits) : Int64 :=
  butFirst limits.maxEnis * butFirst limits.ipv4PerEni

/-- The addresses that pods can use, with those that use the host's network. -/
def podAddresses (limits : NetworkLimits) (hostPods : UInt32) (prefixes : Bool) : Int64 :=
  if prefixes then podSlots limits * addressesPerPrefix + Int64.ofNat hostPods.toNat
  else podSlots limits + Int64.ofNat hostPods.toNat

/-- The pods a node can run. -/
def maxPods (limits : NetworkLimits) (hostPods : UInt32) (prefixes : Bool) : Int64 :=
  let addresses := podAddresses limits hostPods prefixes
  if prefixes then min addresses (podCeiling limits.vcpus) else addresses

end WorkerGroup.Bootstrap
