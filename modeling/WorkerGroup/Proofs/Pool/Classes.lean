/-
The pool of offerings as a partition.

Each key's list is computed on its own, so nothing in the building of the pool makes two
lists agree. They agree because a type is listed under another exactly when the two
offerings are substitutable (`lists_iff`), and that relation can be turned round and
chained. This takes that no two offerings share a name: of two entries under one name
only the last decides what stands under it, while both are found by the lists of others.
-/
import WorkerGroup.Proofs.Pool.Members
import Mathlib.Data.List.Nodup

set_option autoImplicit false

namespace WorkerGroup.InstancePool

/-! ## Partitions -/

/-- Whether a type is among the members under a key. -/
def Lists (p : InstancePool) (key type : String) : Prop :=
  ∃ members, p.members? key = some members ∧ ∃ m ∈ members, m.instanceType = type

/-- The lists of a pool are the classes of its keys: every key is in its own list, the
lists of two keys are one set of members or have no type in common, and nothing is listed
that is not a key. -/
structure Partitions (p : InstancePool) : Prop where
  reflexive : ∀ a ∈ p.keys, p.Lists a a
  symmetric : ∀ a ∈ p.keys, ∀ b ∈ p.keys, (p.Lists a b ↔ p.Lists b a)
  shared : ∀ a ∈ p.keys, ∀ b ∈ p.keys, p.Lists a b →
    ∃ as bs, p.members? a = some as ∧ p.members? b = some bs ∧ ∀ m, m ∈ as ↔ m ∈ bs
  closed : ∀ a type, p.Lists a type → type ∈ p.keys
  apart : ∀ a ∈ p.keys, ∀ b ∈ p.keys, ¬ p.Lists a b →
    ∃ as bs, p.members? a = some as ∧ p.members? b = some bs ∧
      (as.map (·.instanceType)).Disjoint (bs.map (·.instanceType))

/-- Something stands under every key. -/
theorem members?_of_mem_keys {p : InstancePool} {key : String} (h : key ∈ p.keys) :
    ∃ members, p.members? key = some members :=
  Option.isSome_iff_exists.1 (Table.mem_keys_iff.1 h)

theorem lists_iff_mem {p : InstancePool} {key type : String} {members : List PoolMember}
    (h : p.members? key = some members) :
    p.Lists key type ↔ type ∈ members.map (·.instanceType) := by
  rw [List.mem_map]
  constructor
  · rintro ⟨found, at_key, listed⟩
    rw [Option.some.inj (at_key.symm.trans h)] at listed
    exact listed
  · intro listed
    exact ⟨members, h, listed⟩

/-- Every member weighs the same, so a list is settled by the types in it. -/
theorem mem_members_iff {offerings : List Offering} {key : String} {members : List PoolMember}
    (h : (subFamilyFlexible offerings).members? key = some members) {m : PoolMember} :
    m ∈ members ↔
      m.weight = defaultWeight ∧ (subFamilyFlexible offerings).Lists key m.instanceType := by
  rw [lists_iff_mem h, List.mem_map]
  obtain ⟨-, o, -, rfl⟩ := members?_subFamilyFlexible_eq_some_iff.1 h
  constructor
  · intro hm
    exact ⟨(mem_membersOf.1 hm).1, m, hm, rfl⟩
  · rintro ⟨weight, m', hm', named⟩
    have same : m' = m := by
      have weight' := (mem_membersOf.1 hm').1
      cases m'
      cases m
      rw [PoolMember.mk.injEq]
      exact ⟨named, weight'.trans weight.symm⟩
    exact same ▸ hm'

/-! ## Offerings without a name in common -/

section

variable {offerings : List Offering} (distinct : (offerings.map (·.instanceType)).Nodup)
include distinct

/-- The last offering of a name is the only one. -/
theorem lastOffering?_eq_some_iff {type : String} {o : Offering} :
    lastOffering? offerings type = some o ↔ o ∈ offerings ∧ o.instanceType = type := by
  refine ⟨mem_of_lastOffering?, ?_⟩
  rintro ⟨offered, named⟩
  obtain ⟨last, found⟩ :=
    Option.isSome_iff_exists.1 (isSome_lastOffering?_iff.2 ⟨o, offered, named⟩)
  obtain ⟨offered', named'⟩ := mem_of_lastOffering? found
  rw [found, List.inj_on_of_nodup_map distinct offered' offered (named'.trans named.symm)]

/-- **A type is listed under a key exactly when offerings of the two names are
substitutable.** -/
theorem lists_iff {key type : String} :
    (subFamilyFlexible offerings).Lists key type ↔
      ∃ o ∈ offerings, ∃ other ∈ offerings,
        o.instanceType = key ∧ other.instanceType = type ∧ Substitutable o other := by
  constructor
  · rintro ⟨members, found, m, hm, rfl⟩
    obtain ⟨-, o, last, other, offered', named, sub⟩ :=
      mem_members_iff_substitutable.1 ⟨members, found, hm⟩
    obtain ⟨offered, named_key⟩ := mem_of_lastOffering? last
    exact ⟨o, offered, other, offered', named_key, named, sub⟩
  · rintro ⟨o, offered, other, offered', rfl, rfl, sub⟩
    have last := (lastOffering?_eq_some_iff distinct).2 ⟨offered, rfl⟩
    obtain ⟨members, found, hm⟩ := listed_of_substitutable last offered' sub
    exact ⟨members, found, _, hm, rfl⟩

theorem lists_symm {a b : String} (h : (subFamilyFlexible offerings).Lists a b) :
    (subFamilyFlexible offerings).Lists b a := by
  obtain ⟨o, offered, other, offered', named, named', sub⟩ := (lists_iff distinct).1 h
  exact (lists_iff distinct).2 ⟨other, offered', o, offered, named', named, sub.symm⟩

theorem lists_trans {a b c : String} (h : (subFamilyFlexible offerings).Lists a b)
    (h' : (subFamilyFlexible offerings).Lists b c) : (subFamilyFlexible offerings).Lists a c := by
  obtain ⟨o, offered, mid, offered₁, named, named₁, sub⟩ := (lists_iff distinct).1 h
  obtain ⟨mid', offered₂, last, offered', named₂, named', sub'⟩ := (lists_iff distinct).1 h'
  -- Both lists speak of an offering of the middle name, and there is only one.
  have one : mid' = mid :=
    List.inj_on_of_nodup_map distinct offered₂ offered₁ (named₂.trans named₁.symm)
  rw [one] at sub'
  exact (lists_iff distinct).2 ⟨o, offered, last, offered', named, named', sub.trans sub'⟩

theorem lists_self {key : String} (h : key ∈ (subFamilyFlexible offerings).keys) :
    (subFamilyFlexible offerings).Lists key key := by
  obtain ⟨parsed, o, offered, rfl⟩ := mem_keys_subFamilyFlexible.1 h
  exact (lists_iff distinct).2 ⟨o, offered, o, offered, rfl, rfl, .refl parsed⟩

theorem mem_keys_of_lists {key type : String} (h : (subFamilyFlexible offerings).Lists key type) :
    type ∈ (subFamilyFlexible offerings).keys := by
  obtain ⟨o, -, other, offered, -, rfl, sub⟩ := (lists_iff distinct).1 h
  exact mem_keys_subFamilyFlexible.2 ⟨sub.symm.isSome_left, other, offered, rfl⟩

/-- **The pool of offerings is a partition into types that can stand in for one another.**
With no name on offer twice, two types are in each other's lists or in neither; if they
are, the two lists have the same members, and if not, they have no type in common; every
type on a list is itself a key; and what holds a class together is that the offerings of
its types are substitutable. -/
theorem subFamilyFlexible_partitions :
    (subFamilyFlexible offerings).Partitions ∧
      ∀ a b, (subFamilyFlexible offerings).Lists a b ↔
        ∃ o ∈ offerings, ∃ other ∈ offerings,
          o.instanceType = a ∧ other.instanceType = b ∧ Substitutable o other := by
  refine ⟨⟨fun a => lists_self distinct, fun a _ b _ => ⟨lists_symm distinct, lists_symm distinct⟩,
    ?shared, fun a type => mem_keys_of_lists distinct, ?apart⟩, fun a b => lists_iff distinct⟩
  case shared =>
    intro a ha b hb listed
    obtain ⟨as, at_a⟩ := members?_of_mem_keys ha
    obtain ⟨bs, at_b⟩ := members?_of_mem_keys hb
    refine ⟨as, bs, at_a, at_b, fun m => ?_⟩
    rw [mem_members_iff at_a, mem_members_iff at_b]
    -- Each key is on the other's list, so what one lists is one step further for the other.
    refine and_congr_right fun _ => ⟨fun h => ?_, fun h => ?_⟩
    · exact lists_trans distinct (lists_symm distinct listed) h
    · exact lists_trans distinct listed h
  case apart =>
    intro a ha b hb unlisted
    obtain ⟨as, at_a⟩ := members?_of_mem_keys ha
    obtain ⟨bs, at_b⟩ := members?_of_mem_keys hb
    refine ⟨as, bs, at_a, at_b, fun type in_a in_b => unlisted ?_⟩
    -- A type on both lists leads from one key to the other.
    exact lists_trans distinct ((lists_iff_mem at_a).2 in_a)
      (lists_symm distinct ((lists_iff_mem at_b).2 in_b))

end

/-- Of three types of one sub-family two share a list, although their architectures are
named in another order, and the one with more memory is in a class of its own. -/
theorem subFamilyFlexible_partitions_c5 :
    let offerings : List Offering :=
      [⟨"c5d.xlarge", ["x86_64", "arm64"], 4, 8192, 4, 15⟩, ⟨"metal", ["x86_64"], 4, 8192, 4, 15⟩,
        ⟨"c5n.xlarge", ["x86_64", "arm64"], 4, 10752, 4, 15⟩,
        ⟨"c5.xlarge", ["arm64", "x86_64"], 4, 8192, 4, 15⟩]
    let p := subFamilyFlexible offerings
    (offerings.map (·.instanceType)).Nodup ∧ p.Partitions ∧
      p.Lists "c5.xlarge" "c5d.xlarge" ∧ ¬ p.Lists "c5.xlarge" "c5n.xlarge" := by
  intro offerings p
  have distinct : (offerings.map (·.instanceType)).Nodup := by decide
  obtain ⟨partitions, lists⟩ := subFamilyFlexible_partitions distinct
  refine ⟨distinct, partitions, (lists _ _).2 ?alike, fun listed => ?more_memory⟩
  case alike =>
    refine ⟨_, List.mem_of_getElem? (i := 3) rfl, _, List.mem_of_getElem? (i := 0) rfl, rfl, rfl,
      ?_⟩
    exact ⟨⟨⟨"c5", "xlarge"⟩, by decide, by decide⟩, rfl, rfl, .swap _ _ _⟩
  case more_memory =>
    obtain ⟨o, offered, other, offered', named, named', sub⟩ := (lists _ _).1 listed
    have memory : ∀ o ∈ offerings, o.instanceType = "c5.xlarge" →
        ∀ other ∈ offerings, other.instanceType = "c5n.xlarge" → o.memoryMib ≠ other.memoryMib := by
      decide
    exact memory o offered named other offered' named' sub.memory

end WorkerGroup.InstancePool
