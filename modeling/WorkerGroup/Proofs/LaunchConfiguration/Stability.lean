/-
Pruning again.

Cleaning up is not done at one go: a listing comes in another order, the number of
configurations to keep is changed, or some of the deletions fail and the rest is tried again
later. None of this leads to another configuration being pruned. The order of the listing is
lost in sorting. A greater retention only passes over more of what is sorted, so it cuts the
prune list off at its end. And as long as names tell the configurations apart, what was
deleted stood behind the ones that are kept: these stay in front where they were
(`newestFirst_without`), and the prune list is what is left of it.
-/
import WorkerGroup.Proofs.LaunchConfiguration.Pruning
import Mathlib.Data.List.Nodup

set_option autoImplicit false

namespace WorkerGroup.LaunchConfiguration

variable {configurations : List LaunchConfiguration} {active : Option String} {retention : Nat}

/-! ## The listing -/

/-- In whatever order the configurations are listed, their order of age is one. -/
theorem newestFirst_eq_of_perm {arranged : List LaunchConfiguration}
    (perm : arranged.Perm configurations) :
    newestFirst arranged active = newestFirst configurations active :=
  Lists.mergeSort_eq_of_perm notOlder_trans notOlder_total notOlder_antisymm (perm.filter _)

theorem toPrune_eq_of_perm {arranged : List LaunchConfiguration}
    (perm : arranged.Perm configurations) :
    toPrune arranged active retention = toPrune configurations active retention := by
  have sorted : newestFirst arranged active = newestFirst configurations active :=
    newestFirst_eq_of_perm perm
  exact congrArg (fun l => (l.drop retention).reverse.map (·.name)) sorted

/-! ## The retention -/

/-- If more are kept, the prune list ends earlier. -/
theorem isPrefix_toPrune {more : Nat} (h : retention ≤ more) :
    toPrune configurations active more <+: toPrune configurations active retention := by
  have behind : (newestFirst configurations active).drop more <:+
      (newestFirst configurations active).drop retention :=
    List.drop_suffix_drop_left _ h
  exact (List.reverse_prefix.2 behind).map _

/-! ## Deletions -/

/-- The configurations that are left when those of some names have been deleted. -/
def without (deleted : List String) (configurations : List LaunchConfiguration) :
    List LaunchConfiguration :=
  configurations.filter fun c => c.name ∉ deleted

theorem newestFirst_without (deleted : List String) :
    newestFirst (without deleted configurations) active =
      (newestFirst configurations active).filter fun c => c.name ∉ deleted := by
  have rest : inactive (without deleted configurations) active =
      (inactive configurations active).filter fun c => c.name ∉ deleted :=
    List.filter_comm _ _ _
  rw [newestFirst, rest]
  exact Lists.mergeSort_filter notOlder_trans notOlder_total notOlder_antisymm _ _

/-- With names that tell them apart, no configuration that is kept has a name on the prune
list. -/
theorem name_notMem_toPrune_of_kept (distinct : (configurations.map (·.name)).Nodup)
    {c : LaunchConfiguration} (kept : c ∈ (newestFirst configurations active).take retention) :
    c.name ∉ toPrune configurations active retention := by
  have apart : ((newestFirst configurations active).map (·.name)).Nodup :=
    ((newestFirst_perm configurations active).map _).nodup_iff.2
      (distinct.sublist (List.filter_sublist.map _))
  -- A name in front that occurs behind as well would occur twice.
  rw [← List.take_append_drop retention (newestFirst configurations active),
    List.map_append] at apart
  intro pruned
  refine List.disjoint_of_nodup_append apart (List.mem_map_of_mem kept) ?_
  rw [toPrune, List.map_reverse] at pruned
  exact List.mem_reverse.1 pruned

theorem toPrune_without (distinct : (configurations.map (·.name)).Nodup) {deleted : List String}
    (pruned : ∀ name ∈ deleted, name ∈ toPrune configurations active retention) :
    toPrune (without deleted configurations) active retention =
      (toPrune configurations active retention).filter (· ∉ deleted) := by
  have kept : ∀ c ∈ (newestFirst configurations active).take retention,
      decide (c.name ∉ deleted) = true := fun c hc =>
    decide_eq_true fun listed => name_notMem_toPrune_of_kept distinct hc (pruned _ listed)
  -- The deletions leave the front part alone, so it has as many configurations as before and
  -- passing over them ends at the same place.
  have behind : (newestFirst (without deleted configurations) active).drop retention =
      ((newestFirst configurations active).drop retention).filter fun c => c.name ∉ deleted := by
    rw [newestFirst_without, Lists.drop_filter_of_forall_mem_take kept]
  calc toPrune (without deleted configurations) active retention
    _ = ((newestFirst (without deleted configurations) active).drop retention).reverse.map
          (·.name) := rfl
    _ = (((newestFirst configurations active).drop retention).reverse.filter
          fun c => c.name ∉ deleted).map (·.name) := by rw [behind, List.filter_reverse]
    _ = (toPrune configurations active retention).filter (· ∉ deleted) := by
      rw [toPrune, List.filter_map]
      rfl

/-! ## All three -/

/-- **The prune list stays what it is.** It does not depend on the order in which the
configurations are listed; if more are to be kept it is cut off at its end; and if names tell
the configurations apart, then after any of the deletions it asks for, it is what is left of
it, in the same order, and nothing when all of them are done. -/
theorem prune_list_stable (configurations : List LaunchConfiguration) (active : Option String)
    (retention : Nat) :
    (∀ arranged : List LaunchConfiguration, arranged.Perm configurations →
        toPrune arranged active retention = toPrune configurations active retention) ∧
      (∀ more, retention ≤ more →
        toPrune configurations active more <+: toPrune configurations active retention) ∧
      ((configurations.map (·.name)).Nodup →
        (∀ deleted : List String,
          (∀ name ∈ deleted, name ∈ toPrune configurations active retention) →
            toPrune (without deleted configurations) active retention =
              (toPrune configurations active retention).filter (· ∉ deleted)) ∧
          toPrune (without (toPrune configurations active retention) configurations) active
            retention = []) := by
  refine ⟨fun _ => toPrune_eq_of_perm, fun _ => isPrefix_toPrune, fun distinct =>
    ⟨fun _ => toPrune_without distinct, ?_⟩⟩
  -- All deletions done is the case in which nothing of the list is left.
  rw [toPrune_without distinct fun _ listed => listed, List.filter_eq_nil_iff]
  intro name listed
  simpa using listed

/-- Two of five configurations were made in one instant and the active one is neither the
oldest nor the newest. Listed the other way round, with two more to be kept, and after the
second deletion alone or all three, the prune list is the same, its front, and its rest. -/
theorem prune_list_stable_of_five :
    let at12 (minute : Fin 60) : Instant :=
      ⟨⟨2024, 1, 1⟩, 12, minute, 0, 0, by decide, by decide, minute.isLt, by decide, by decide⟩
    let configurations : List LaunchConfiguration :=
      [⟨"e", at12 5⟩, ⟨"a-2", at12 1⟩, ⟨"c", at12 3⟩, ⟨"a-1", at12 1⟩, ⟨"d", at12 4⟩]
    toPrune configurations (some "c") 1 = ["a-1", "a-2", "d"] ∧
      toPrune configurations.reverse (some "c") 1 = ["a-1", "a-2", "d"] ∧
      toPrune configurations (some "c") 3 <+: ["a-1", "a-2", "d"] ∧
      toPrune (without ["a-2"] configurations) (some "c") 1 = ["a-1", "d"] ∧
      toPrune (without ["a-1", "a-2", "d"] configurations) (some "c") 1 = [] := by
  intro at12 configurations
  have sorted : [⟨"e", at12 5⟩, ⟨"d", at12 4⟩, ⟨"a-2", at12 1⟩, ⟨"a-1", at12 1⟩] =
      newestFirst configurations (some "c") :=
    eq_newestFirst (by decide) (by decide)
  have pruned : toPrune configurations (some "c") 1 = ["a-1", "a-2", "d"] := by
    rw [toPrune, ← newestFirst, ← sorted]
    rfl
  obtain ⟨arranged, shorter, deletions⟩ := prune_list_stable configurations (some "c") 1
  obtain ⟨some_deleted, all_deleted⟩ := deletions (by decide)
  rw [pruned] at shorter all_deleted
  refine ⟨pruned, (arranged _ configurations.reverse_perm).trans pruned, shorter 3 (by decide),
    ?_, all_deleted⟩
  rw [some_deleted ["a-2"] (by rw [pruned]; decide), pruned]
  rfl

end WorkerGroup.LaunchConfiguration
