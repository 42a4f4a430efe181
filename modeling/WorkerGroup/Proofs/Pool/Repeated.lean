/-
Offerings that share a name.

A list of offerings may name a type more than once, and nothing refuses such a list. Who
looks a type up by its name is given the first of its offerings; the pool has under a key
the types that can stand in for the last, and lists a type on account of any one of its
offerings. So three offerings of one name can be at work at once: what a node's pods are
counted by is not always what the pool promises (`readers_disagree_on_repeated_name`).

They are the same for two names whose offerings have the same capacity each, which is what
the pool compares (`readers_agree_when_consistent`). Names that are on offer once are a
case of it, and so are repeated ones that differ in their network interfaces alone.
-/
import WorkerGroup.Discovered
import WorkerGroup.Proofs.Pool.Members

set_option autoImplicit false

namespace WorkerGroup.InstancePool

/-! ## Capacity -/

/-- Two offerings with the same processors, memory and architectures. -/
structure SameCapacity (a b : Offering) : Prop where
  vcpus : a.vcpus = b.vcpus
  memory : a.memoryMib = b.memoryMib
  architectures : a.architectures.Perm b.architectures

theorem SameCapacity.trans {a b c : Offering} (h : SameCapacity a b) (h' : SameCapacity b c) :
    SameCapacity a c :=
  ⟨h.vcpus.trans h'.vcpus, h.memory.trans h'.memory, h.architectures.trans h'.architectures⟩

theorem Substitutable.sameCapacity {a b : Offering} (h : Substitutable a b) : SameCapacity a b :=
  ⟨h.vcpus, h.memory, h.architectures⟩

/-- The offerings of a name have the same capacity. -/
def Consistent (offerings : List Offering) (type : String) : Prop :=
  ∀ a ∈ offerings, ∀ b ∈ offerings, a.instanceType = type → b.instanceType = type →
    SameCapacity a b

/-! ## Looking offerings up -/

theorem mem_of_offering? {d : DiscoveredState} {type : String} {o : Offering}
    (h : d.offering? type = some o) : o ∈ d.offerings ∧ o.instanceType = type := by
  rw [DiscoveredState.offering?] at h
  have named := List.find?_some h
  exact ⟨List.mem_of_find?_eq_some h, eq_of_beq named⟩

theorem exists_offering? {d : DiscoveredState} {o : Offering} (h : o ∈ d.offerings) :
    ∃ first, d.offering? o.instanceType = some first :=
  Option.isSome_iff_exists.1 (List.find?_isSome.2 ⟨o, h, beq_self_eq_true _⟩)

/-- The first offering of a consistent name stands for all of them. -/
theorem Consistent.sameCapacity_of_offering? {d : DiscoveredState} {o first : Offering}
    (h : Consistent d.offerings o.instanceType) (offered : o ∈ d.offerings)
    (found : d.offering? o.instanceType = some first) :
    SameCapacity first o ∧ SameCapacity o first := by
  obtain ⟨offered', named⟩ := mem_of_offering? found
  exact ⟨h first offered' o offered named rfl, h o offered first offered' rfl named⟩

/-- **Of consistent names both readers say the same.** Whatever the pool of all offerings
lists under a key, an offering is found both for the key and for what is listed; and when
the offerings of the key have the same capacity, and those of what is listed have, the two
that are found have the same processors, memory and architectures. -/
theorem readers_agree_when_consistent (d : DiscoveredState) (key : String)
    (members : List PoolMember)
    (h : (subFamilyFlexible d.offerings).members? key = some members) (m : PoolMember)
    (hm : m ∈ members) :
    ∃ o other, d.offering? key = some o ∧ d.offering? m.instanceType = some other ∧
      (Consistent d.offerings key → Consistent d.offerings m.instanceType →
        SameCapacity o other) := by
  obtain ⟨-, a, last, b, offered', named, sub⟩ :=
    mem_members_iff_substitutable.1 ⟨members, h, hm⟩
  obtain ⟨offered, rfl⟩ := mem_of_lastOffering? last
  rw [← named]
  obtain ⟨o, found⟩ := exists_offering? offered
  obtain ⟨other, found'⟩ := exists_offering? offered'
  refine ⟨o, other, found, found', fun consistent consistent' => ?_⟩
  -- The pool compared an offering of each name, and those that are found are like them.
  have key_like := (consistent.sameCapacity_of_offering? offered found).1
  have listed_like := (consistent'.sameCapacity_of_offering? offered' found').2
  exact (key_like.trans sub.sameCapacity).trans listed_like

/-- A type on offer twice, the second time with more interfaces and with its architectures
in another order: whatever is listed under it has the processors that are found for it,
although a third name is on offer with two capacities. -/
theorem readers_agree_on_equal_entries :
    let first : Offering := ⟨"c5.xlarge", ["x86_64", "arm64"], 4, 8192, 4, 15⟩
    let again : Offering := ⟨"c5.xlarge", ["arm64", "x86_64"], 4, 8192, 8, 30⟩
    let sibling : Offering := ⟨"c5d.xlarge", ["x86_64", "arm64"], 4, 8192, 4, 15⟩
    let small : Offering := ⟨"m5.large", ["x86_64"], 2, 8192, 3, 10⟩
    let large : Offering := ⟨"m5.large", ["x86_64"], 4, 16384, 3, 10⟩
    let d : DiscoveredState := { offerings := [first, small, again, large, sibling] }
    Consistent d.offerings "c5.xlarge" ∧ Consistent d.offerings "c5d.xlarge" ∧
      ∃ members, (subFamilyFlexible d.offerings).members? "c5.xlarge" = some members ∧
        ⟨"c5d.xlarge", defaultWeight⟩ ∈ members ∧
        ∃ o other, d.offering? "c5.xlarge" = some o ∧ d.offering? "c5d.xlarge" = some other ∧
          SameCapacity o other := by
  intro first again sibling small large d
  have alike : ∀ type ∈ ["c5.xlarge", "c5d.xlarge"], ∀ a ∈ d.offerings, ∀ b ∈ d.offerings,
      a.instanceType = type → b.instanceType = type →
        a.vcpus = b.vcpus ∧ a.memoryMib = b.memoryMib ∧ a.architectures.Perm b.architectures := by
    decide
  have consistent : ∀ type ∈ ["c5.xlarge", "c5d.xlarge"], Consistent d.offerings type := by
    intro type listed a ha b hb named named'
    obtain ⟨vcpus, memory, architectures⟩ := alike type listed a ha b hb named named'
    exact ⟨vcpus, memory, architectures⟩
  have key := consistent "c5.xlarge" (by decide)
  have other_key := consistent "c5d.xlarge" (by decide)
  have sub : Substitutable again sibling :=
    ⟨⟨⟨"c5", "xlarge"⟩, by decide, by decide⟩, rfl, rfl, .swap _ _ _⟩
  have offered : sibling ∈ d.offerings := by simp [d]
  have last : lastOffering? d.offerings "c5.xlarge" = some again := rfl
  obtain ⟨members, found, listed⟩ := listed_of_substitutable last offered sub
  obtain ⟨o, other, found_key, found_listed, agree⟩ :=
    readers_agree_when_consistent d "c5.xlarge" members found _ listed
  exact ⟨key, other_key, members, found, listed, o, other, found_key, found_listed,
    agree key other_key⟩

/-- **A name on offer twice with different capacities is read in two ways.** The pool lists
`c5d.xlarge` under `c5.xlarge`, because it has the capacity of the last offering of that
name; what is found under the name is the first offering, and that has half of it. -/
theorem readers_disagree_on_repeated_name :
    let first : Offering := ⟨"c5.xlarge", ["x86_64"], 4, 8192, 4, 15⟩
    let again : Offering := ⟨"c5.xlarge", ["x86_64"], 8, 16384, 4, 15⟩
    let sibling : Offering := ⟨"c5d.xlarge", ["x86_64"], 8, 16384, 4, 15⟩
    let d : DiscoveredState := { offerings := [first, again, sibling] }
    (∃ members, (subFamilyFlexible d.offerings).members? "c5.xlarge" = some members ∧
        ⟨"c5d.xlarge", defaultWeight⟩ ∈ members) ∧
      d.offering? "c5.xlarge" = some first ∧ d.offering? "c5d.xlarge" = some sibling ∧
      first.vcpus ≠ sibling.vcpus ∧ first.memoryMib ≠ sibling.memoryMib := by
  intro first again sibling d
  have sub : Substitutable again sibling :=
    ⟨⟨⟨"c5", "xlarge"⟩, by decide, by decide⟩, rfl, rfl, .refl _⟩
  have offered : sibling ∈ d.offerings := by simp [d]
  have last : lastOffering? d.offerings "c5.xlarge" = some again := rfl
  exact ⟨listed_of_substitutable last offered sub, rfl, rfl, by decide, by decide⟩

end WorkerGroup.InstancePool
