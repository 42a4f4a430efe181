/-
The pool of offerings, said without the way it is built.

What stands under a key is put together in four turns: the offerings are filtered, their
names sorted, repetitions dropped, and the list written over whatever stood under the key.
Of all that only two things are left to see. Among the offerings of one name the last one
counts for its own key (`lastOffering?_eq_some_iff_isLast`), and the list behind the key is
the only one that ascends strictly and has the right types on it, since a sorted list
without repetitions side by side has none at all (`pairwise_lt_dropRepeats`).
-/
import WorkerGroup.Proofs.Lists
import WorkerGroup.Proofs.Pool.Members
import Mathlib.Data.List.Sort

set_option autoImplicit false

namespace WorkerGroup.InstancePool

/-! ## The list of one offering ascends -/

/-- A sorted list without the repetitions that stand next to each other has no others. -/
theorem pairwise_lt_dropRepeats {l : List String} (h : l.Pairwise (· ≤ ·)) :
    (dropRepeats l).Pairwise (· < ·) := by
  induction l using dropRepeats.induct with
  | case1 => exact .nil
  | case2 a => exact List.pairwise_singleton _ a
  | case3 b rest ih =>
    rw [dropRepeats, if_pos rfl]
    exact ih (List.pairwise_cons.1 h).2
  | case4 a b rest apart ih =>
    obtain ⟨first, sorted⟩ := List.pairwise_cons.1 h
    rw [dropRepeats, if_neg apart]
    refine List.pairwise_cons.2 ⟨fun x listed => ?_, ih sorted⟩
    have b_le : b ≤ x := by
      rcases List.mem_cons.1 ((mem_dropRepeats _).1 listed) with rfl | later
      · exact String.le_refl x
      · exact (List.pairwise_cons.1 sorted).1 x later
    -- A text that is not behind the first would put the second before it as well.
    refine String.not_le.1 fun x_le => apart ?_
    exact String.le_antisymm (first b List.mem_cons_self) (String.le_trans b_le x_le)

theorem pairwise_lt_siblings (offerings : List Offering) (o : Offering) :
    (siblings offerings o).Pairwise (· < ·) :=
  pairwise_lt_dropRepeats (pairwise_mergeSort_le _)

/-! ## The last offering of a name -/

/-- An offering is the last of a name: it has the name, and none behind it has. -/
def IsLast (offerings : List Offering) (type : String) (o : Offering) : Prop :=
  o.instanceType = type ∧
    ∃ before behind, offerings = before ++ o :: behind ∧ ∀ p ∈ behind, p.instanceType ≠ type

theorem lastOffering?_eq_some_iff_isLast {offerings : List Offering} {type : String}
    {o : Offering} : lastOffering? offerings type = some o ↔ IsLast offerings type o := by
  rw [lastOffering?, Lists.getLast?_filter_eq_some_iff, IsLast]
  simp only [decide_eq_true_iff, ne_eq]

/-! ## The whole pool -/

/-- **The pool of all offerings in terms of the offerings alone.** Its keys ascend and are
the names on offer that have a sub-family. Under each stands the key itself, and behind it
in strictly ascending order the other types of which some offering can stand in for the
last one of the key; everything listed weighs one. -/
theorem subFamilyFlexible_listing (offerings : List Offering) :
    (subFamilyFlexible offerings).keys.Pairwise (· < ·) ∧
      (∀ key, key ∈ (subFamilyFlexible offerings).keys ↔
        (SubFamily.ofInstanceType? key).isSome ∧ ∃ o ∈ offerings, o.instanceType = key) ∧
      ∀ key ∈ (subFamilyFlexible offerings).keys, ∃ last others,
        IsLast offerings key last ∧
          (subFamilyFlexible offerings).members? key =
            some ((key :: others).map fun type => ⟨type, "1"⟩) ∧
          others.Pairwise (· < ·) ∧
          ∀ type, type ∈ others ↔
            type ≠ key ∧ ∃ o ∈ offerings, o.instanceType = type ∧ Substitutable o last := by
  refine ⟨?ascending, fun key => mem_keys_subFamilyFlexible, fun key listed => ?members⟩
  case ascending =>
    exact List.pairwise_map.2 (subFamilyFlexible offerings).pools.ordered
  case members =>
    obtain ⟨members, found⟩ := Option.isSome_iff_exists.1 (Table.mem_keys_iff.1 listed)
    obtain ⟨parsed, last, lastOne, rfl⟩ := members?_subFamilyFlexible_eq_some_iff.1 found
    have isLast := lastOffering?_eq_some_iff_isLast.1 lastOne
    obtain rfl := isLast.1
    exact ⟨last, siblings offerings last, isLast, found, pairwise_lt_siblings offerings last,
      fun type => mem_siblings parsed⟩

/-- A type on offer twice is listed for its last offering: `c5n.xlarge` could stand in for
the first and is left out, although it is of the same sub-family. A sibling that is on
offer twice is on the list once, and on account of either of its offerings. -/
theorem subFamilyFlexible_listing_c5 :
    let offerings : List Offering :=
      [⟨"c5d.xlarge", ["x86_64", "arm64"], 4, 8192, 4, 15⟩, ⟨"metal", ["arm64"], 4, 8192, 4, 15⟩,
        ⟨"c5.xlarge", ["x86_64"], 2, 4096, 4, 15⟩, ⟨"c5n.xlarge", ["x86_64"], 2, 4096, 4, 15⟩,
        ⟨"c5a.xlarge", ["arm64", "x86_64"], 4, 8192, 4, 15⟩,
        ⟨"c5.xlarge", ["arm64", "x86_64"], 4, 8192, 4, 15⟩,
        ⟨"c5d.xlarge", ["x86_64"], 4, 4096, 4, 15⟩]
    "c5.xlarge" ∈ (subFamilyFlexible offerings).keys ∧
      "metal" ∉ (subFamilyFlexible offerings).keys ∧
      (subFamilyFlexible offerings).members? "c5.xlarge" =
        some [⟨"c5.xlarge", "1"⟩, ⟨"c5a.xlarge", "1"⟩, ⟨"c5d.xlarge", "1"⟩] := by
  intro offerings
  obtain ⟨-, keys, lists⟩ := subFamilyFlexible_listing offerings
  have key : "c5.xlarge" ∈ (subFamilyFlexible offerings).keys :=
    (keys _).2 ⟨by decide, _, List.mem_of_getElem? (i := 2) rfl, rfl⟩
  have odd : "metal" ∉ (subFamilyFlexible offerings).keys := fun listed =>
    absurd ((keys _).1 listed).1 (by decide)
  obtain ⟨last, others, isLast, found, ascending, listed⟩ := lists "c5.xlarge" key
  have settled : lastOffering? offerings "c5.xlarge" =
      some ⟨"c5.xlarge", ["arm64", "x86_64"], 4, 8192, 4, 15⟩ := rfl
  obtain rfl := Option.some.inj
    ((lastOffering?_eq_some_iff_isLast.2 isLast).symm.trans settled)
  have siblings : others = ["c5a.xlarge", "c5d.xlarge"] := by
    refine List.Pairwise.eq_of_mem_iff ascending (by decide) fun type => (listed type).trans ?_
    constructor
    · rintro ⟨apart, o, offered, rfl, sub⟩
      have only : ∀ o ∈ offerings, o.instanceType ≠ "c5.xlarge" → o.memoryMib = 8192 →
          (SubFamily.ofInstanceType? o.instanceType).isSome →
            o.instanceType ∈ ["c5a.xlarge", "c5d.xlarge"] := by decide
      exact only o offered apart sub.memory sub.isSome_left
    · have sub (type : String) (h : SubFamily.ofInstanceType? type = some ⟨"c5", "xlarge"⟩)
          (architectures : List String) (perm : architectures.Perm ["arm64", "x86_64"]) :
          Substitutable ⟨type, architectures, 4, 8192, 4, 15⟩
            ⟨"c5.xlarge", ["arm64", "x86_64"], 4, 8192, 4, 15⟩ :=
        ⟨⟨_, h, by decide⟩, rfl, rfl, perm⟩
      intro either
      obtain rfl | rfl := List.mem_pair.1 either
      · exact ⟨by decide, _, List.mem_of_getElem? (i := 4) rfl, rfl,
          sub _ (by decide) _ (.refl _)⟩
      · exact ⟨by decide, _, List.mem_of_getElem? (i := 0) rfl, rfl,
          sub _ (by decide) _ (.swap _ _ _)⟩
  rw [siblings] at found
  exact ⟨key, odd, found⟩

end WorkerGroup.InstancePool
