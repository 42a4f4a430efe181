/-
Instance pools: instance types that may be used in place of one another.

A pool maps a key to an ordered list of weighted instance types, where earlier ones are
preferred. It is either given type by type, under one key, or derived from the
offerings: then every offered type is a key, and the types alike to it follow it.

"Alike" is one relation on offerings: same sub-family, same number of processors, same
memory, same architectures. The list of a key is computed from the relation alone, so
it does not depend on the order of the offerings, only on which of several entries of
one name comes last.
-/
import WorkerGroup.InstanceGroup
import WorkerGroup.Json
import WorkerGroup.Offering
import WorkerGroup.Pool.SubFamily
import WorkerGroup.Schema.Dialect
import WorkerGroup.Table

set_option autoImplicit false

namespace WorkerGroup

/-! ## Pools -/

/-- How the members of a pool are alike. -/
inductive PoolKind where
  /-- Members have family, generation, size and architecture in common. -/
  | subFamilyFlexible
deriving DecidableEq, Repr, Inhabited

namespace PoolKind

/-- The name a kind is written by. -/
def name : PoolKind → String
  | subFamilyFlexible => "SubFamilyFlexible"

/-- The kind a name is written for, taken exactly. -/
def ofName? (s : String) : Option PoolKind :=
  if s = subFamilyFlexible.name then some subFamilyFlexible else none

end PoolKind

/-- A member of a pool. -/
structure PoolMember where
  instanceType : String
  weight : String
deriving DecidableEq, Inhabited

/-- The instance types of a group, by key. -/
structure InstancePool where
  kind : PoolKind
  pools : Table (List PoolMember)
deriving DecidableEq, Inhabited

namespace InstancePool

/-- The weight of a member that was derived and not given. -/
def defaultWeight : String := "1"

/-- A pool without keys. -/
def empty (kind : PoolKind) : InstancePool :=
  ⟨kind, ∅⟩

/-- The members under a key: none when there is no such key, no members when the key was
declared without any. -/
def members? (p : InstancePool) (key : String) : Option (List PoolMember) :=
  p.pools.find? key

/-- The pool with members under a key, in place of those that stood there. -/
def insert (p : InstancePool) (key : String) (members : List PoolMember) : InstancePool :=
  { p with pools := p.pools.insert key members }

/-- The keys in ascending order. -/
def keys (p : InstancePool) : List String :=
  p.pools.keys

/-- The pool of types that are listed one by one, in order, under one key. -/
def ofInstanceTypes (kind : PoolKind) (key : String) (types : List WeightedType) :
    InstancePool :=
  (empty kind).insert key (types.map fun t => ⟨t.kind, t.weight⟩)

/-! ## Pools of offerings -/

/-- Whether two offerings are of types that can stand in for each other: one sub-family,
and the same processors, memory and architectures. -/
def alike (a b : Offering) : Bool :=
  SubFamily.ofInstanceType? a.instanceType == SubFamily.ofInstanceType? b.instanceType &&
    a.vcpus == b.vcpus && a.memoryMib == b.memoryMib &&
    a.sortedArchitectures == b.sortedArchitectures

/-- A sorted list without the repetitions that stand next to each other. -/
def dropRepeats : List String → List String
  | [] => []
  | [a] => [a]
  | a :: b :: rest => if a = b then dropRepeats (b :: rest) else a :: dropRepeats (b :: rest)

/-- The other types that can stand in for an offering's, by name. -/
def siblings (offerings : List Offering) (o : Offering) : List String :=
  let others := offerings.filter fun other =>
    other.instanceType != o.instanceType && alike other o
  dropRepeats ((others.map (·.instanceType)).mergeSort fun a b => decide (a ≤ b))

/-- The pool of everything on offer. A type whose name has no sub-family is left out; a
type offered more than once has the list of its last offering. -/
def subFamilyFlexible (offerings : List Offering) : InstancePool :=
  offerings.foldl
    (fun p o =>
      if (SubFamily.ofInstanceType? o.instanceType).isSome then
        p.insert o.instanceType
          ((o.instanceType :: siblings offerings o).map fun t => ⟨t, defaultWeight⟩)
      else p)
    (empty .subFamilyFlexible)

end InstancePool

/-! ## As data -/

section

variable {α : Type} (D : Schema.Dialect α)

/-- A kind of pool, by its name. -/
def PoolKind.decode? (v : α) : Option PoolKind :=
  (D.choice? v).bind PoolKind.ofName?

/-- A member of a pool; both fields are required. -/
def PoolMember.decode? (v : α) : Option PoolMember := do
  let r ← D.fullRecord? ["type", "weight"] v
  let instanceType ← r.required? "type" D.text?
  let weight ← r.required? "weight" D.text?
  some { instanceType, weight }

/-- A pool; both fields are required. -/
def InstancePool.decode? (v : α) : Option InstancePool := do
  let r ← D.fullRecord? ["type", "pool"] v
  let kind ← r.required? "type" (PoolKind.decode? D)
  let pools ← r.required? "pool" (D.map? (D.list? (PoolMember.decode? D)))
  some { kind, pools := Table.ofList pools }

end

/-- A kind of pool as JSON. -/
def PoolKind.encode (k : PoolKind) : Json :=
  .str k.name

/-- A member of a pool as JSON. -/
def PoolMember.encode (m : PoolMember) : Json :=
  .obj [("type", .str m.instanceType), ("weight", .str m.weight)]

/-- A pool as JSON. -/
def InstancePool.encode (p : InstancePool) : Json :=
  .obj [("type", p.kind.encode),
    ("pool", .obj (p.pools.entries.map fun e => (e.1, Json.ofList PoolMember.encode e.2)))]

end WorkerGroup
