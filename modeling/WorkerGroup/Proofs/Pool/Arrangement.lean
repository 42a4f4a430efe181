/-
The arrangement of the offerings does not matter.

The pool is built by going through the offerings in order, and a later list is written over
an earlier one under the same key, so two lists of the same offerings could give two pools.
They do when a name is on offer with two capacities: the one that comes last is the one its
key is listed for. When the offerings of every name have one capacity, whichever comes last
puts the same list under the key (`membersOf_congr`), and then only which offerings there
are is left to matter, not where or how many times each of them stands.
-/
import WorkerGroup.Proofs.Pool.Listing
import WorkerGroup.Proofs.Pool.Repeated
import WorkerGroup.Proofs.Table.Entries

set_option autoImplicit false

namespace WorkerGroup.InstancePool

/-- There is one kind of pool, so pools that have the same under every key are one. -/
theorem ext_members? {p q : InstancePool} (h : ∀ key, p.members? key = q.members? key) :
    p = q := by
  cases p
  cases q
  rw [mk.injEq]
  exact ⟨rfl, Table.ext_find? h⟩

/-! ## Offerings of one name that have one capacity -/

theorem SameCapacity.symm {a b : Offering} (h : SameCapacity a b) : SameCapacity b a :=
  ⟨h.vcpus.symm, h.memory.symm, h.architectures.symm⟩

/-- What can stand in for an offering can stand in for any other of its name and capacity. -/
theorem Substitutable.of_sameCapacity {other a b : Offering} (h : Substitutable other a)
    (named : a.instanceType = b.instanceType) (same : SameCapacity a b) :
    Substitutable other b := by
  obtain ⟨s, sub, sub'⟩ := h.subFamily
  have capacity := h.sameCapacity.trans same
  exact ⟨⟨s, sub, named ▸ sub'⟩, capacity.vcpus, capacity.memory, capacity.architectures⟩

section

variable {l l' : List Offering} (same : ∀ o, o ∈ l ↔ o ∈ l')
include same

/-- The same names are on offer. -/
theorem onOffer_congr (type : String) :
    (∃ o ∈ l, o.instanceType = type) ↔ ∃ o ∈ l', o.instanceType = type :=
  exists_congr fun o => and_congr_left fun _ => same o

/-- Offerings of one name and capacity have the same siblings among the same offerings. -/
theorem siblings_congr {a b : Offering} (named : a.instanceType = b.instanceType)
    (parsed : (SubFamily.ofInstanceType? a.instanceType).isSome) (capacity : SameCapacity a b) :
    siblings l a = siblings l' b := by
  refine List.Pairwise.eq_of_mem_iff (pairwise_lt_siblings l a) (pairwise_lt_siblings l' b)
    fun type => ?_
  rw [mem_siblings parsed, mem_siblings (named ▸ parsed), named]
  refine and_congr_right fun _ => ⟨?_, ?_⟩
  · rintro ⟨o, offered, rfl, sub⟩
    exact ⟨o, (same o).1 offered, rfl, sub.of_sameCapacity named capacity⟩
  · rintro ⟨o, offered, rfl, sub⟩
    exact ⟨o, (same o).2 offered, rfl, sub.of_sameCapacity named.symm capacity.symm⟩

theorem membersOf_congr {a b : Offering} (named : a.instanceType = b.instanceType)
    (parsed : (SubFamily.ofInstanceType? a.instanceType).isSome) (capacity : SameCapacity a b) :
    membersOf l a = membersOf l' b := by
  rw [membersOf, membersOf, named, siblings_congr same named parsed capacity]

/-- **The pool of offerings is settled by which offerings there are.** If the offerings of
every name have the same capacity, every list of the same offerings gives the same pool,
with the same lists in the same order: however the offerings are arranged, and however many
times and wherever any of them is repeated. -/
theorem subFamilyFlexible_eq_of_same_offerings
    (consistent : ∀ a ∈ l, ∀ b ∈ l, a.instanceType = b.instanceType → SameCapacity a b) :
    subFamilyFlexible l = subFamilyFlexible l' := by
  refine ext_members? fun key => ?_
  rw [members?_subFamilyFlexible, members?_subFamilyFlexible]
  by_cases parsed : (SubFamily.ofInstanceType? key).isSome
  · rw [if_pos parsed, if_pos parsed]
    by_cases offered : ∃ o ∈ l, o.instanceType = key
    · obtain ⟨a, last⟩ := Option.isSome_iff_exists.1 (isSome_lastOffering?_iff.2 offered)
      obtain ⟨b, last'⟩ := Option.isSome_iff_exists.1
        (isSome_lastOffering?_iff.2 ((onOffer_congr same key).1 offered))
      obtain ⟨a_offered, rfl⟩ := mem_of_lastOffering? last
      obtain ⟨b_offered, named⟩ := mem_of_lastOffering? last'
      -- These may be two offerings of the name, but both are in either list.
      have capacity := consistent a a_offered b ((same b).2 b_offered) named.symm
      rw [last, last', Option.map_some, Option.map_some,
        membersOf_congr same named.symm parsed capacity]
    · have absent : lastOffering? l key = none :=
        Option.not_isSome_iff_eq_none.1 fun found => offered (isSome_lastOffering?_iff.1 found)
      have absent' : lastOffering? l' key = none :=
        Option.not_isSome_iff_eq_none.1 fun found =>
          offered ((onOffer_congr same key).2 (isSome_lastOffering?_iff.1 found))
      rw [absent, absent', Option.map_none, Option.map_none]
  · rw [if_neg parsed, if_neg parsed]

end

/-- Two offerings of one name that differ in the order of their architectures and in their
interfaces change places, and one of them is repeated behind the other: the pool stays, also
where it is the other one now that the key is listed for. -/
theorem subFamilyFlexible_eq_of_swapped_c5 :
    let first : Offering := ⟨"c5.xlarge", ["x86_64", "arm64"], 4, 8192, 4, 15⟩
    let again : Offering := ⟨"c5.xlarge", ["arm64", "x86_64"], 4, 8192, 8, 30⟩
    let sibling : Offering := ⟨"c5d.xlarge", ["x86_64", "arm64"], 4, 8192, 4, 15⟩
    lastOffering? [first, sibling, again] "c5.xlarge" = some again ∧
      lastOffering? [again, first, sibling, first] "c5.xlarge" = some first ∧
      subFamilyFlexible [first, sibling, again] =
        subFamilyFlexible [again, first, sibling, first] := by
  intro first again sibling
  have same : ∀ o, o ∈ [first, sibling, again] ↔ o ∈ [again, first, sibling, first] := by
    intro o
    simp only [List.mem_cons, List.not_mem_nil, or_false]
    tauto
  have alike : ∀ a ∈ [first, sibling, again], ∀ b ∈ [first, sibling, again],
      a.instanceType = b.instanceType →
        a.vcpus = b.vcpus ∧ a.memoryMib = b.memoryMib ∧ a.architectures.Perm b.architectures := by
    decide
  refine ⟨rfl, rfl, subFamilyFlexible_eq_of_same_offerings same fun a ha b hb named => ?_⟩
  obtain ⟨vcpus, memory, architectures⟩ := alike a ha b hb named
  exact ⟨vcpus, memory, architectures⟩

end WorkerGroup.InstancePool
