/-
What the pool of all offerings lists under a key.

The pool is built by putting in one list after another, where a later list takes the
place of an earlier one under the same key, while each list is computed from all the
offerings at once. The two do not interfere: whatever was put in before, under a key
stands the list of the last offering of that name (`members?_subFamilyFlexible`). And
which types a list holds is a matter of the relation on offerings alone (`mem_siblings`).
-/
import WorkerGroup.Proofs.Pool.Alike
import WorkerGroup.Proofs.Table.Lookup
import Mathlib.Data.List.Induction

set_option autoImplicit false

namespace WorkerGroup.InstancePool

/-! ## The list of one offering -/

theorem mem_dropRepeats {x : String} (l : List String) : x ∈ dropRepeats l ↔ x ∈ l := by
  induction l using dropRepeats.induct with
  | case1 => rfl
  | case2 a => rfl
  | case3 b rest ih =>
    have twice : x ∈ b :: b :: rest ↔ x ∈ b :: rest := by
      rw [List.mem_cons, or_iff_right_of_imp]
      rintro rfl
      exact List.mem_cons_self
    rw [dropRepeats, if_pos rfl, ih, twice]
  | case4 a b rest apart ih =>
    rw [dropRepeats, if_neg apart, List.mem_cons, ih]
    exact List.mem_cons.symm

/-- The siblings of an offering are the types of other names that some offering
substitutable with it has. -/
theorem mem_siblings {offerings : List Offering} {o : Offering}
    (h : (SubFamily.ofInstanceType? o.instanceType).isSome) {type : String} :
    type ∈ siblings offerings o ↔
      type ≠ o.instanceType ∧
        ∃ other ∈ offerings, other.instanceType = type ∧ Substitutable other o := by
  rw [siblings, mem_dropRepeats, List.mem_mergeSort, List.mem_map]
  constructor
  · rintro ⟨other, found, rfl⟩
    rw [List.mem_filter, Bool.and_eq_true, bne_iff_ne, alike_iff h] at found
    exact ⟨found.2.1, other, found.1, rfl, found.2.2⟩
  · rintro ⟨apart, other, offered, rfl, sub⟩
    refine ⟨other, ?_, rfl⟩
    rw [List.mem_filter, Bool.and_eq_true, bne_iff_ne, alike_iff h]
    exact ⟨offered, apart, sub⟩

/-- The members that stand under an offering's type on its account. -/
def membersOf (offerings : List Offering) (o : Offering) : List PoolMember :=
  (o.instanceType :: siblings offerings o).map fun t => ⟨t, defaultWeight⟩

theorem mem_membersOf {offerings : List Offering} {o : Offering} {m : PoolMember} :
    m ∈ membersOf offerings o ↔
      m.weight = defaultWeight ∧
        (m.instanceType = o.instanceType ∨ m.instanceType ∈ siblings offerings o) := by
  rw [membersOf, List.mem_map]
  constructor
  · rintro ⟨t, listed, rfl⟩
    exact ⟨rfl, List.mem_cons.1 listed⟩
  · rintro ⟨weight, listed⟩
    exact ⟨m.instanceType, List.mem_cons.2 listed, weight ▸ rfl⟩

/-! ## The lists put in one after another -/

/-- The last offering of an instance type. -/
def lastOffering? (offerings : List Offering) (type : String) : Option Offering :=
  (offerings.filter fun o => o.instanceType = type).getLast?

theorem lastOffering?_concat (offerings : List Offering) (o : Offering) (type : String) :
    lastOffering? (offerings ++ [o]) type =
      if type = o.instanceType then some o else lastOffering? offerings type := by
  rw [lastOffering?, List.filter_append]
  by_cases h : type = o.instanceType
  · have own : [o].filter (fun o => o.instanceType = type) = [o] := by simp [h]
    rw [if_pos h, own, List.getLast?_concat]
  · have other : [o].filter (fun o => o.instanceType = type) = [] := by simp [Ne.symm h]
    rw [if_neg h, other, List.append_nil, lastOffering?]

theorem mem_of_lastOffering? {offerings : List Offering} {type : String} {o : Offering}
    (h : lastOffering? offerings type = some o) : o ∈ offerings ∧ o.instanceType = type := by
  have found := List.mem_filter.1 (List.mem_of_getLast? h)
  exact ⟨found.1, of_decide_eq_true found.2⟩

theorem isSome_lastOffering?_iff {offerings : List Offering} {type : String} :
    (lastOffering? offerings type).isSome ↔ ∃ o ∈ offerings, o.instanceType = type := by
  constructor
  · intro h
    obtain ⟨o, found⟩ := Option.isSome_iff_exists.1 h
    exact ⟨o, mem_of_lastOffering? found⟩
  · rintro ⟨o, offered, named⟩
    rw [lastOffering?, List.getLast?_isSome]
    exact List.ne_nil_of_mem (List.mem_filter.2 ⟨offered, decide_eq_true named⟩)

/-- One offering puts its list under its type, when that has a sub-family. -/
def putIn (offerings : List Offering) (p : InstancePool) (o : Offering) : InstancePool :=
  if (SubFamily.ofInstanceType? o.instanceType).isSome then
    p.insert o.instanceType (membersOf offerings o)
  else p

theorem subFamilyFlexible_eq_foldl (offerings : List Offering) :
    subFamilyFlexible offerings = offerings.foldl (putIn offerings) (empty .subFamilyFlexible) :=
  rfl

theorem members?_putIn (offerings : List Offering) (p : InstancePool) (o : Offering)
    (key : String) :
    (putIn offerings p o).members? key =
      if key = o.instanceType ∧ (SubFamily.ofInstanceType? key).isSome then
        some (membersOf offerings o)
      else p.members? key := by
  by_cases named : key = o.instanceType
  · subst named
    rw [putIn]
    split
    · rename_i parsed
      rw [if_pos ⟨rfl, parsed⟩, members?, insert, Table.find?_insert, if_pos rfl]
    · rename_i odd
      rw [if_neg fun h => odd h.2]
  · rw [if_neg fun h => named h.1, putIn]
    split
    · rw [members?, insert, Table.find?_insert, if_neg named, members?]
    · rfl

/-- Under a key stands the list of its last offering among those put in so far. The
induction is on these from their end; the offerings the lists are computed from stay. -/
theorem members?_foldl_putIn (offerings done : List Offering) (key : String) :
    (done.foldl (putIn offerings) (empty .subFamilyFlexible)).members? key =
      if (SubFamily.ofInstanceType? key).isSome then
        (lastOffering? done key).map (membersOf offerings)
      else none := by
  induction done using List.reverseRecOn with
  | nil => exact (ite_self none).symm
  | append_singleton done o ih =>
    rw [List.foldl_append, List.foldl_cons, List.foldl_nil, members?_putIn, ih,
      lastOffering?_concat]
    -- The new offering decides under its own name, on both sides, and an odd name leaves
    -- nothing under it whichever offering is the last.
    by_cases named : key = o.instanceType
    · rw [if_pos named]
      by_cases parsed : (SubFamily.ofInstanceType? key).isSome
      · rw [if_pos ⟨named, parsed⟩, if_pos parsed, Option.map_some]
      · rw [if_neg fun h => parsed h.2, if_neg parsed, if_neg parsed]
    · rw [if_neg fun h => named h.1, if_neg named]

/-- **What the pool of all offerings has under a key**: the list of the last offering of
that name, when the name has a sub-family, and nothing otherwise. -/
theorem members?_subFamilyFlexible (offerings : List Offering) (key : String) :
    (subFamilyFlexible offerings).members? key =
      if (SubFamily.ofInstanceType? key).isSome then
        (lastOffering? offerings key).map (membersOf offerings)
      else none := by
  rw [subFamilyFlexible_eq_foldl, members?_foldl_putIn]

theorem members?_subFamilyFlexible_eq_some_iff {offerings : List Offering} {key : String}
    {members : List PoolMember} :
    (subFamilyFlexible offerings).members? key = some members ↔
      (SubFamily.ofInstanceType? key).isSome ∧
        ∃ o, lastOffering? offerings key = some o ∧ membersOf offerings o = members := by
  rw [members?_subFamilyFlexible]
  split
  · rename_i parsed
    rw [Option.map_eq_some_iff, and_iff_right parsed]
  · rename_i odd
    exact iff_of_false nofun fun h => odd h.1

/-- **What the pool of all offerings lists under a key**: the types of which some offering can
stand in for the last one of the key. -/
theorem mem_members_iff_substitutable {offerings : List Offering} {key : String}
    {m : PoolMember} :
    (∃ members, (subFamilyFlexible offerings).members? key = some members ∧ m ∈ members) ↔
      m.weight = defaultWeight ∧
        ∃ o, lastOffering? offerings key = some o ∧
          ∃ other ∈ offerings, other.instanceType = m.instanceType ∧ Substitutable o other := by
  constructor
  · rintro ⟨members, found, hm⟩
    obtain ⟨parsed, o, last, rfl⟩ := members?_subFamilyFlexible_eq_some_iff.1 found
    obtain ⟨offered, rfl⟩ := mem_of_lastOffering? last
    obtain ⟨weight, own | sibling⟩ := mem_membersOf.1 hm
    -- The siblings leave the key out, which is listed in front of them.
    · exact ⟨weight, o, last, o, offered, own.symm, .refl parsed⟩
    · obtain ⟨-, other, offered', named, sub⟩ := (mem_siblings parsed).1 sibling
      exact ⟨weight, o, last, other, offered', named, sub.symm⟩
  · rintro ⟨weight, o, last, other, offered', named, sub⟩
    obtain ⟨-, rfl⟩ := mem_of_lastOffering? last
    have parsed := sub.isSome_left
    refine ⟨membersOf offerings o,
      members?_subFamilyFlexible_eq_some_iff.2 ⟨parsed, o, last, rfl⟩,
      mem_membersOf.2 ⟨weight, ?_⟩⟩
    by_cases own : m.instanceType = o.instanceType
    · exact .inl own
    · exact .inr ((mem_siblings parsed).2 ⟨own, other, offered', named, sub.symm⟩)

/-- An offering that can stand in for the last one of a key is listed under it. -/
theorem listed_of_substitutable {offerings : List Offering} {key : String} {o other : Offering}
    (last : lastOffering? offerings key = some o) (offered : other ∈ offerings)
    (sub : Substitutable o other) :
    ∃ members, (subFamilyFlexible offerings).members? key = some members ∧
      ⟨other.instanceType, defaultWeight⟩ ∈ members :=
  mem_members_iff_substitutable.2 ⟨rfl, o, last, other, offered, rfl, sub⟩

/-- The keys are the names on offer that have a sub-family. -/
theorem mem_keys_subFamilyFlexible {offerings : List Offering} {key : String} :
    key ∈ (subFamilyFlexible offerings).keys ↔
      (SubFamily.ofInstanceType? key).isSome ∧ ∃ o ∈ offerings, o.instanceType = key := by
  have found : key ∈ (subFamilyFlexible offerings).keys ↔
      ((subFamilyFlexible offerings).members? key).isSome := Table.mem_keys_iff
  rw [found, members?_subFamilyFlexible, ← isSome_lastOffering?_iff]
  split
  · rename_i parsed
    rw [Option.isSome_map, and_iff_right parsed]
  · rename_i odd
    exact iff_of_false nofun fun h => odd h.1

end WorkerGroup.InstancePool
