/-
Which launch configurations are pruned.

Pruning sorts what is not active, newest first, passes over as many as are to be kept and
turns the rest round. What makes the outcome a matter of the configurations alone is that
age is a total order: two configurations made in one instant are told apart by name, and two
of one name made in one instant are one configuration written twice (`Older.trichotomous`).
So there is only one way to line the configurations up by age (`newestFirst`), the kept ones
are a front part of it, and the pruned ones are all that is behind.
-/
import WorkerGroup.LaunchConfiguration
import WorkerGroup.Proofs.Lists
import WorkerGroup.Proofs.Text.Octets

set_option autoImplicit false

namespace WorkerGroup

/-- An instant is known by its fields. -/
theorem Instant.fields_inj {s t : Instant} : s.fields = t.fields ↔ s = t := by
  refine ⟨fun h => ?_, fun h => h ▸ rfl⟩
  simp only [fields, List.cons.injEq, Int.natCast_inj, and_true] at h
  obtain ⟨year, month, day, hour, minute, second, nanosecond⟩ := h
  obtain ⟨⟨_, _, _⟩, _, _, _, _, _, _, _, _, _⟩ := s
  obtain ⟨⟨_, _, _⟩, _, _, _, _, _, _, _, _, _⟩ := t
  subst year month day hour minute second nanosecond
  rfl

namespace LaunchConfiguration

/-! ## Age -/

/-- A configuration is older than another if it was made earlier, or in the same instant
with a name that comes first in the order of its octets. -/
def Older (a b : LaunchConfiguration) : Prop :=
  a.createdAt.fields < b.createdAt.fields ∨
    a.createdAt = b.createdAt ∧ Text.Base64.octetsOf a.name < Text.Base64.octetsOf b.name

/-- No configuration is older than itself. -/
theorem Older.irrefl (a : LaunchConfiguration) : ¬ Older a a := by
  rintro (earlier | ⟨-, less⟩)
  · exact List.lt_irrefl _ earlier
  · exact List.lt_irrefl _ less

theorem Older.trans {a b c : LaunchConfiguration} (h : Older a b) (h' : Older b c) :
    Older a c := by
  rcases h with earlier | ⟨same, less⟩
  · rcases h' with earlier' | ⟨same', -⟩
    · exact .inl (List.lt_trans earlier earlier')
    · exact .inl (same' ▸ earlier)
  · rcases h' with earlier' | ⟨same', less'⟩
    · exact .inl (same ▸ earlier')
    · exact .inr ⟨same.trans same', List.lt_trans less less'⟩

/-- **Of two configurations one is older, or they are one.** -/
theorem Older.trichotomous (a b : LaunchConfiguration) : Older a b ∨ a = b ∨ Older b a := by
  by_cases earlier : a.createdAt.fields < b.createdAt.fields
  · exact .inl (.inl earlier)
  by_cases later : b.createdAt.fields < a.createdAt.fields
  · exact .inr (.inr (.inl later))
  have same : a.createdAt = b.createdAt :=
    Instant.fields_inj.1 (List.le_antisymm later earlier)
  -- Made in one instant, the two are told apart by name or by nothing at all: a configuration
  -- is its name and its instant.
  by_cases less : a.name < b.name
  · exact .inl (.inr ⟨same, Text.Base64.octetsOf_lt_iff.2 less⟩)
  by_cases greater : b.name < a.name
  · exact .inr (.inr (.inr ⟨same.symm, Text.Base64.octetsOf_lt_iff.2 greater⟩))
  have named : a.name = b.name := String.le_antisymm greater less
  cases a
  cases b
  exact .inr (.inl ((mk.injEq ..).mpr ⟨named, same⟩))

/-- A configuration that is at most another in the order of age. -/
def NotNewer (a b : LaunchConfiguration) : Prop :=
  a = b ∨ Older a b

theorem NotNewer.trans {a b c : LaunchConfiguration} (h : NotNewer a b) (h' : NotNewer b c) :
    NotNewer a c := by
  rcases h with rfl | older
  · exact h'
  · rcases h' with rfl | older'
    · exact .inr older
    · exact .inr (older.trans older')

theorem NotNewer.total (a b : LaunchConfiguration) : NotNewer a b ∨ NotNewer b a := by
  rcases Older.trichotomous a b with older | same | older
  · exact .inl (.inr older)
  · exact .inl (.inl same)
  · exact .inr (.inr older)

theorem NotNewer.antisymm {a b : LaunchConfiguration} (h : NotNewer a b) (h' : NotNewer b a) :
    a = b := by
  rcases h with same | older
  · exact same
  · rcases h' with same | older'
    · exact same.symm
    · exact absurd (older.trans older') (Older.irrefl a)

/-- The comparison that sorting goes by decides the order of age, turned round. -/
theorem notOlder_iff {a b : LaunchConfiguration} : notOlder a b = true ↔ NotNewer b a := by
  rw [notOlder, Bool.or_eq_true, Bool.and_eq_true, decide_eq_true_iff, decide_eq_true_iff,
    beq_iff_eq]
  constructor
  · rintro (later | ⟨same, named⟩)
    · exact .inr (.inl later)
    -- The comparison lets equal names pass, so all that is left to exclude is that the second
    -- is the newer one of the two.
    · rcases Older.trichotomous b a with older | one | earlier | ⟨-, less⟩
      · exact .inr older
      · exact .inl one
      · exact absurd (same ▸ earlier) (List.lt_irrefl _)
      · exact absurd (Text.Base64.octetsOf_lt_iff.1 less) (String.not_lt.2 named)
  · rintro (rfl | later | ⟨same, less⟩)
    · exact .inr ⟨rfl, String.le_refl _⟩
    · exact .inl later
    · exact .inr ⟨same.symm, String.not_lt.1 (String.lt_asymm (Text.Base64.octetsOf_lt_iff.1 less))⟩

/-! ## In the order of age -/

theorem notOlder_trans (a b c : LaunchConfiguration) (h : notOlder a b = true)
    (h' : notOlder b c = true) : notOlder a c = true :=
  notOlder_iff.2 ((notOlder_iff.1 h').trans (notOlder_iff.1 h))

theorem notOlder_total (a b : LaunchConfiguration) : (notOlder a b || notOlder b a) = true := by
  rw [Bool.or_eq_true, notOlder_iff, notOlder_iff]
  exact NotNewer.total b a

theorem notOlder_antisymm (a b : LaunchConfiguration) (h : notOlder a b = true)
    (h' : notOlder b a = true) : a = b :=
  (notOlder_iff.1 h').antisymm (notOlder_iff.1 h)

/-- The inactive configurations, newest first. -/
def newestFirst (configurations : List LaunchConfiguration) (active : Option String) :
    List LaunchConfiguration :=
  (inactive configurations active).mergeSort notOlder

section

variable (configurations : List LaunchConfiguration) (active : Option String)

theorem newestFirst_perm :
    (newestFirst configurations active).Perm (inactive configurations active) :=
  List.mergeSort_perm _ _

theorem length_newestFirst :
    (newestFirst configurations active).length = (inactive configurations active).length :=
  (newestFirst_perm configurations active).length_eq

theorem pairwise_newestFirst :
    (newestFirst configurations active).Pairwise fun a b => NotNewer b a :=
  (List.pairwise_mergeSort notOlder_trans notOlder_total _).imp notOlder_iff.1

end

/-- **There is one order of age**: inactive configurations that are in order, however they
were found, are in this one. -/
theorem eq_newestFirst {configurations l : List LaunchConfiguration} {active : Option String}
    (perm : l.Perm (inactive configurations active))
    (sorted : l.Pairwise fun a b => notOlder a b = true) : l = newestFirst configurations active :=
  Lists.eq_mergeSort_of_perm notOlder_trans notOlder_total notOlder_antisymm perm sorted

/-! ## What is pruned -/

/-- Inactive configurations divided by age: the oldest are pruned, in ascending order, and as
many of the newest are kept as there are to be kept. -/
structure DividedByAge (inactive : List LaunchConfiguration) (retention : Nat)
    (pruned kept : List LaunchConfiguration) : Prop where
  perm : (pruned ++ kept).Perm inactive
  length_pruned : pruned.length = inactive.length - retention
  length_kept : kept.length = min inactive.length retention
  ascending : pruned.Pairwise NotNewer
  oldest : ∀ c ∈ pruned, ∀ k ∈ kept, NotNewer c k

/-- The front part of the configurations in the order of age and what is behind it. -/
theorem dividedByAge_newestFirst (configurations : List LaunchConfiguration)
    (active : Option String) (retention : Nat) :
    DividedByAge (inactive configurations active) retention
      ((newestFirst configurations active).drop retention).reverse
      ((newestFirst configurations active).take retention) := by
  have length := length_newestFirst configurations active
  have sorted := pairwise_newestFirst configurations active
  -- Cut where the kept ones end, the order says both how the part behind is arranged and that
  -- nothing in it is newer than anything in front.
  rw [← List.take_append_drop retention (newestFirst configurations active),
    List.pairwise_append] at sorted
  obtain ⟨-, behind, across⟩ := sorted
  refine ⟨?_, ?_, ?_, List.pairwise_reverse.2 behind, ?_⟩
  · refine .trans ?_ (newestFirst_perm configurations active)
    refine ((List.reverse_perm _).append_right _).trans (List.perm_append_comm.trans ?_)
    rw [List.take_append_drop]
  · rw [List.length_reverse, List.length_drop, length]
  · rw [List.length_take, length, Nat.min_comm]
  · intro c pruned k kept
    exact across k kept c (List.mem_reverse.1 pruned)

/-- The active configuration is not pruned. -/
theorem ne_active_of_mem_toPrune {configurations : List LaunchConfiguration}
    {active : Option String} {retention : Nat} {name : String}
    (h : name ∈ toPrune configurations active retention) : some name ≠ active := by
  obtain ⟨c, pruned, rfl⟩ := List.mem_map.1 h
  have sorted : c ∈ newestFirst configurations active :=
    List.mem_of_mem_drop (List.mem_reverse.1 pruned)
  have listed := List.mem_filter.1 ((newestFirst_perm configurations active).subset sorted)
  exact of_decide_eq_true listed.2

/-- **Pruning takes the oldest configurations that are not active, oldest first, and leaves
the newest.** This holds of every list, repeated names and equal instants included, of every
active name, be it on the list or not, and of every retention, be it zero or more than there
are. -/
theorem toPrune_takes_oldest (configurations : List LaunchConfiguration)
    (active : Option String) (retention : Nat) :
    ∃ pruned kept, DividedByAge (inactive configurations active) retention pruned kept ∧
      toPrune configurations active retention = pruned.map (·.name) ∧
      ∀ name ∈ toPrune configurations active retention, some name ≠ active :=
  ⟨_, _, dividedByAge_newestFirst configurations active retention, rfl,
    fun _ => ne_active_of_mem_toPrune⟩

end LaunchConfiguration

end WorkerGroup
