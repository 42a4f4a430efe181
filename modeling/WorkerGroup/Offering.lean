/-
Offerings: the instance types a region has, and what each one is made of.

An offering is what the cloud answers about an instance type. Two things are asked of
it later: which other types can stand in for it, and how many pods a node of it can run.
-/
import WorkerGroup.Json
import WorkerGroup.Schema.Dialect

set_option autoImplicit false

namespace WorkerGroup

/-- An instance type on offer. -/
structure Offering where
  instanceType : String
  architectures : List String
  vcpus : UInt32
  memoryMib : UInt64
  /-- How many network interfaces an instance has. -/
  maxEnis : UInt32
  /-- How many addresses an interface has. -/
  ipv4PerEni : UInt32
deriving DecidableEq, Inhabited

namespace Offering

/-! ## Architectures -/

/-- The architectures node images exist for. -/
def supportedArchitectures : List String :=
  ["x86_64", "arm64"]

/-- Whether node images exist for an architecture. -/
def isSupportedArchitecture (architecture : String) : Bool :=
  supportedArchitectures.contains architecture

/-- Whether an instance type runs an architecture. -/
def runs (o : Offering) (architecture : String) : Bool :=
  o.architectures.contains architecture

/-- The offerings that run an architecture. -/
def filterArchitecture (offerings : List Offering) (architecture : String) : List Offering :=
  offerings.filter fun o => o.runs architecture

/-- The architectures in order, so that two lists of the same ones are equal. -/
def sortedArchitectures (o : Offering) : List String :=
  o.architectures.mergeSort fun a b => decide (a ≤ b)

/-! ## As data -/

/-- An offering; every field is required. -/
def decode? {α : Type} (D : Schema.Dialect α) (v : α) : Option Offering := do
  let r ← D.fullRecord? ["instance_type", "architectures", "vcpus", "memory_mib", "max_enis",
    "ipv4_per_eni"] v
  let instanceType ← r.required? "instance_type" D.text?
  let architectures ← r.required? "architectures" (D.list? D.text?)
  let vcpus ← r.required? "vcpus" D.uint32?
  let memoryMib ← r.required? "memory_mib" D.uint64?
  let maxEnis ← r.required? "max_enis" D.uint32?
  let ipv4PerEni ← r.required? "ipv4_per_eni" D.uint32?
  some { instanceType, architectures, vcpus, memoryMib, maxEnis, ipv4PerEni }

/-- An offering as JSON. -/
def encode (o : Offering) : Json :=
  .obj [("instance_type", .str o.instanceType),
    ("architectures", Json.ofList .str o.architectures), ("vcpus", .int o.vcpus.toNat),
    ("memory_mib", .int o.memoryMib.toNat), ("max_enis", .int o.maxEnis.toNat),
    ("ipv4_per_eni", .int o.ipv4PerEni.toNat)]

end Offering

end WorkerGroup
