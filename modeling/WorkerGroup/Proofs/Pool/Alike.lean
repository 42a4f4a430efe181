/-
When two offerings are alike.

The pool compares the architectures of two offerings by sorting both lists, which is a
way to compute and not what is meant: two lists sort to one exactly when they hold the
same architectures the same number of times, in whatever order. So `alike` decides a
relation in which no order of anything occurs, and that relation can be turned round and
chained. It relates an offering to itself only when its name has a sub-family, and this
is the one thing it lacks of an equivalence.
-/
import WorkerGroup.Pool
import WorkerGroup.Proofs.Lists

set_option autoImplicit false

namespace WorkerGroup.InstancePool

/-! ## Texts in ascending order -/

theorem le_trans_decide (a b c : String) (hab : decide (a ≤ b) = true)
    (hbc : decide (b ≤ c) = true) : decide (a ≤ c) = true :=
  decide_eq_true (String.le_trans (of_decide_eq_true hab) (of_decide_eq_true hbc))

theorem le_total_decide (a b : String) : (decide (a ≤ b) || decide (b ≤ a)) = true := by
  rw [Bool.or_eq_true, decide_eq_true_iff, decide_eq_true_iff]
  exact String.le_total a b

theorem le_antisymm_decide (a b : String) (hab : decide (a ≤ b) = true)
    (hba : decide (b ≤ a) = true) : a = b :=
  String.le_antisymm (of_decide_eq_true hab) (of_decide_eq_true hba)

theorem pairwise_mergeSort_le (l : List String) :
    (l.mergeSort fun a b => decide (a ≤ b)).Pairwise (· ≤ ·) :=
  (List.pairwise_mergeSort le_trans_decide le_total_decide l).imp of_decide_eq_true

/-- Sorting forgets the order of a list and nothing else. -/
theorem mergeSort_eq_iff_perm {l l' : List String} :
    (l.mergeSort fun a b => decide (a ≤ b)) = (l'.mergeSort fun a b => decide (a ≤ b)) ↔
      l.Perm l' := by
  constructor
  · intro same
    have sorted := List.mergeSort_perm l fun a b => decide (a ≤ b)
    rw [same] at sorted
    exact sorted.symm.trans (List.mergeSort_perm l' _)
  · exact Lists.mergeSort_eq_of_perm le_trans_decide le_total_decide le_antisymm_decide

/-! ## The relation -/

/-- Two offerings of types that can stand in for each other: one sub-family, and the same
processors, memory and architectures. -/
structure Substitutable (a b : Offering) : Prop where
  subFamily : ∃ s, SubFamily.ofInstanceType? a.instanceType = some s ∧
    SubFamily.ofInstanceType? b.instanceType = some s
  vcpus : a.vcpus = b.vcpus
  memory : a.memoryMib = b.memoryMib
  architectures : a.architectures.Perm b.architectures

theorem Substitutable.refl {a : Offering}
    (h : (SubFamily.ofInstanceType? a.instanceType).isSome) : Substitutable a a := by
  obtain ⟨s, hs⟩ := Option.isSome_iff_exists.1 h
  exact ⟨⟨s, hs, hs⟩, rfl, rfl, .refl _⟩

theorem Substitutable.symm {a b : Offering} (h : Substitutable a b) : Substitutable b a := by
  obtain ⟨s, ha, hb⟩ := h.subFamily
  exact ⟨⟨s, hb, ha⟩, h.vcpus.symm, h.memory.symm, h.architectures.symm⟩

/-- The offering in the middle has one sub-family, so the outer two have it in common. -/
theorem Substitutable.trans {a b c : Offering} (h : Substitutable a b) (h' : Substitutable b c) :
    Substitutable a c := by
  obtain ⟨s, ha, hb⟩ := h.subFamily
  obtain ⟨s', hb', hc⟩ := h'.subFamily
  have one : s' = s := Option.some.inj (hb'.symm.trans hb)
  rw [one] at hc
  exact ⟨⟨s, ha, hc⟩, h.vcpus.trans h'.vcpus, h.memory.trans h'.memory,
    h.architectures.trans h'.architectures⟩

theorem Substitutable.isSome_left {a b : Offering} (h : Substitutable a b) :
    (SubFamily.ofInstanceType? a.instanceType).isSome := by
  obtain ⟨s, ha, -⟩ := h.subFamily
  rw [ha]
  rfl

/-- Among offerings that have a sub-family the comparison by sorting decides the relation.
Two that have none are alike to the comparison, which is never asked about them. -/
theorem alike_iff {a b : Offering} (h : (SubFamily.ofInstanceType? b.instanceType).isSome) :
    alike a b = true ↔ Substitutable a b := by
  obtain ⟨s, hs⟩ := Option.isSome_iff_exists.1 h
  simp only [alike, Bool.and_eq_true, beq_iff_eq, Offering.sortedArchitectures,
    mergeSort_eq_iff_perm]
  constructor
  · rintro ⟨⟨⟨sub, vcpus⟩, memory⟩, perm⟩
    exact ⟨⟨s, sub.trans hs, hs⟩, vcpus, memory, perm⟩
  · rintro ⟨⟨s', ha, hb⟩, vcpus, memory, perm⟩
    exact ⟨⟨⟨ha.trans hb.symm, vcpus⟩, memory⟩, perm⟩

end WorkerGroup.InstancePool
