/-
Pods that a node can run, counted in words as the numbers they are.

Words wrap around where numbers go on, so a word says what it should only as long as the
number fits. Wrapping keeps sums and products, though: what the words come to is what the number
before the ceiling wraps to (`podAddresses_eq`), whatever was lost on the way, and it is that
number once that fits itself (`toInt_podAddresses`). That is the one place where words come in.
How capacity grows is then a matter of natural numbers, where a difference cut off at zero
and a product grow with what they are made of (`exactPods_mono`), and the ceiling grows too.
-/
import WorkerGroup.Bootstrap.PodCapacity

set_option autoImplicit false

namespace WorkerGroup.Bootstrap

variable {limits limits' : NetworkLimits} {hostPods hostPods' : UInt32} {prefixes : Bool}

/-! ## The number before the ceiling -/

/-- The pods a node could run if there were no ceiling and no end to words. -/
def exactPods (limits : NetworkLimits) (hostPods : UInt32) (prefixes : Bool) : Nat :=
  (limits.maxEnis.toNat - 1) * (limits.ipv4PerEni.toNat - 1) * (if prefixes then 16 else 1) +
    hostPods.toNat

/-- A signed word of 64 bits holds the number. -/
def Fits (limits : NetworkLimits) (hostPods : UInt32) (prefixes : Bool) : Prop :=
  exactPods limits hostPods prefixes ≤ 9223372036854775807

instance (limits : NetworkLimits) (hostPods : UInt32) (prefixes : Bool) :
    Decidable (Fits limits hostPods prefixes) :=
  inferInstanceAs (Decidable (_ ≤ _))

theorem hostPods_le_exactPods (limits : NetworkLimits) (hostPods : UInt32) (prefixes : Bool) :
    hostPods.toNat ≤ exactPods limits hostPods prefixes :=
  Nat.le_add_left _ _

/-- More interfaces, addresses and host pods make no fewer pods. -/
theorem exactPods_mono (enis : limits.maxEnis ≤ limits'.maxEnis)
    (addresses : limits.ipv4PerEni ≤ limits'.ipv4PerEni) (host : hostPods ≤ hostPods') :
    exactPods limits hostPods prefixes ≤ exactPods limits' hostPods' prefixes := by
  rw [UInt32.le_iff_toNat_le] at enis addresses host
  have slots : (limits.maxEnis.toNat - 1) * (limits.ipv4PerEni.toNat - 1) ≤
      (limits'.maxEnis.toNat - 1) * (limits'.ipv4PerEni.toNat - 1) :=
    Nat.mul_le_mul (Nat.sub_le_sub_right enis 1) (Nat.sub_le_sub_right addresses 1)
  exact Nat.add_le_add (Nat.mul_le_mul_right _ slots) host

/-- Whole prefixes make no fewer pods than single addresses. -/
theorem exactPods_false_le_true (limits : NetworkLimits) (hostPods : UInt32) :
    exactPods limits hostPods false ≤ exactPods limits hostPods true := by
  have slots : (limits.maxEnis.toNat - 1) * (limits.ipv4PerEni.toNat - 1) * 1 ≤
      (limits.maxEnis.toNat - 1) * (limits.ipv4PerEni.toNat - 1) * 16 :=
    Nat.mul_le_mul_left _ (by decide)
  exact Nat.add_le_add_right slots _

theorem Fits.of_prefixes (h : Fits limits hostPods true) : Fits limits hostPods false :=
  Nat.le_trans (exactPods_false_le_true limits hostPods) h

theorem Fits.of_le (h : Fits limits' hostPods' prefixes) (enis : limits.maxEnis ≤ limits'.maxEnis)
    (addresses : limits.ipv4PerEni ≤ limits'.ipv4PerEni) (host : hostPods ≤ hostPods') :
    Fits limits hostPods prefixes :=
  Nat.le_trans (exactPods_mono enis addresses host) h

/-- Limits up to two to the 29th fit with any number of host pods. -/
theorem fits_of_le (enis : limits.maxEnis ≤ 536870912) (addresses : limits.ipv4PerEni ≤ 536870912)
    (hostPods : UInt32) (prefixes : Bool) : Fits limits hostPods prefixes := by
  have most : Fits ⟨536870912, 536870912, 0⟩ 4294967295 prefixes := by
    cases prefixes <;> decide
  have host : hostPods ≤ 4294967295 := by
    rw [UInt32.le_iff_toNat_le]
    exact Nat.le_of_lt_succ hostPods.toNat_lt
  exact most.of_le enis addresses host

/-! ## Words -/

/-- **Words come to what the number wraps to.** -/
theorem podAddresses_eq (limits : NetworkLimits) (hostPods : UInt32) (prefixes : Bool) :
    podAddresses limits hostPods prefixes = Int64.ofNat (exactPods limits hostPods prefixes) := by
  rw [exactPods, Int64.ofNat_add, Int64.ofNat_mul, Int64.ofNat_mul]
  cases prefixes with
  | false =>
    have slots : podSlots limits = podSlots limits * Int64.ofNat 1 := (Int64.mul_one _).symm
    rw [podAddresses, if_neg Bool.false_ne_true, slots]
    rfl
  | true => rfl

/-- **A number that fits is counted as it is.** -/
theorem toInt_podAddresses (h : Fits limits hostPods prefixes) :
    (podAddresses limits hostPods prefixes).toInt = exactPods limits hostPods prefixes := by
  rw [podAddresses_eq]
  exact Int64.toInt_ofNat_of_lt (Nat.lt_succ_of_le h)

/-- The smaller of two words is the smaller number. -/
theorem toInt_min (a b : Int64) : (min a b).toInt = min a.toInt b.toInt := by
  show (if a ≤ b then a else b).toInt = _
  rw [Int.min_def]
  by_cases h : a ≤ b
  · rw [if_pos h, if_pos (Int64.le_iff_toInt_le.1 h)]
  · rw [if_neg h, if_neg (mt Int64.le_iff_toInt_le.2 h)]

theorem toInt_podCeiling (vcpus : UInt32) :
    (podCeiling vcpus).toInt = if vcpus < 30 then 110 else 250 := by
  unfold podCeiling
  split
  · rfl
  · rfl

theorem podCeiling_mono {vcpus vcpus' : UInt32} (h : vcpus ≤ vcpus') :
    (podCeiling vcpus).toInt ≤ (podCeiling vcpus').toInt := by
  rw [toInt_podCeiling, toInt_podCeiling]
  rw [UInt32.le_iff_toNat_le] at h
  simp only [UInt32.lt_iff_toNat_lt]
  split
  · split <;> decide
  · split
    · omega
    · decide

/-! ## Pods -/

/-- One by one, addresses are all a node can have pods for. -/
theorem toInt_maxPods_false (h : Fits limits hostPods false) :
    (maxPods limits hostPods false).toInt = exactPods limits hostPods false := by
  rw [maxPods, if_neg Bool.false_ne_true, toInt_podAddresses h]

/-- With prefixes the ceiling may be below what there are addresses for. -/
theorem toInt_maxPods_true (h : Fits limits hostPods true) :
    (maxPods limits hostPods true).toInt =
      min (exactPods limits hostPods true : Int) (if limits.vcpus < 30 then 110 else 250) := by
  rw [maxPods, if_pos rfl, toInt_min, toInt_podAddresses h, toInt_podCeiling]

/-- **A larger node runs no fewer pods.** -/
theorem maxPods_mono (h : Fits limits' hostPods' prefixes)
    (enis : limits.maxEnis ≤ limits'.maxEnis) (addresses : limits.ipv4PerEni ≤ limits'.ipv4PerEni)
    (vcpus : limits.vcpus ≤ limits'.vcpus) (host : hostPods ≤ hostPods') :
    (maxPods limits hostPods prefixes).toInt ≤ (maxPods limits' hostPods' prefixes).toInt := by
  have exact_le : (exactPods limits hostPods prefixes : Int) ≤ exactPods limits' hostPods' prefixes :=
    Int.ofNat_le.2 (exactPods_mono enis addresses host)
  have smaller := h.of_le enis addresses host
  cases prefixes with
  | false =>
    rw [toInt_maxPods_false h, toInt_maxPods_false smaller]
    exact exact_le
  | true =>
    have ceiling := podCeiling_mono vcpus
    rw [toInt_podCeiling, toInt_podCeiling] at ceiling
    rw [toInt_maxPods_true h, toInt_maxPods_true smaller]
    omega

/-- One interface counts for no more than none, as it serves the node. -/
theorem maxPods_one_interface (limits : NetworkLimits) (hostPods : UInt32) (prefixes : Bool) :
    maxPods { limits with maxEnis := 0 } hostPods prefixes =
      maxPods { limits with maxEnis := 1 } hostPods prefixes := by
  have slots : podSlots { limits with maxEnis := 0 } = podSlots { limits with maxEnis := 1 } := rfl
  rw [maxPods, maxPods, podAddresses, podAddresses, slots]

/-- One address counts for no more than none, as it serves the interface. -/
theorem maxPods_one_address (limits : NetworkLimits) (hostPods : UInt32) (prefixes : Bool) :
    maxPods { limits with ipv4PerEni := 0 } hostPods prefixes =
      maxPods { limits with ipv4PerEni := 1 } hostPods prefixes := by
  have slots : podSlots { limits with ipv4PerEni := 0 } =
      podSlots { limits with ipv4PerEni := 1 } :=
    rfl
  rw [maxPods, maxPods, podAddresses, podAddresses, slots]

/-- **Pods are counted as the numbers they are, within bounds, and more of anything makes no
fewer.** For all limits and host pods:

- if a signed word holds the number before the ceiling, one by one addresses make just that
  number of pods, never negative and never fewer than the host pods;
- if it holds the number with sixteen addresses for each, prefixes make that number or the
  ceiling, 110 with fewer than 30 processors and 250 with more, whichever is less: never
  negative, never fewer than the lesser of host pods and ceiling, never more than the ceiling,
  and no fewer than the lesser of the ceiling and what single addresses make;
- limits and host pods that are no less make no fewer pods, either way, if it holds the number;
- none and one make no difference for interfaces, nor for addresses of an interface;
- up to 536870912 interfaces with as many addresses it always holds the number. -/
theorem maxPods_in_bounds (limits : NetworkLimits) (hostPods : UInt32) :
    let pods (prefixes : Bool) : Int := (maxPods limits hostPods prefixes).toInt
    let ceiling : Int := if limits.vcpus < 30 then 110 else 250
    (Fits limits hostPods false →
      pods false = exactPods limits hostPods false ∧ 0 ≤ pods false ∧
        hostPods.toNat ≤ pods false) ∧
    (Fits limits hostPods true →
      pods true = min (exactPods limits hostPods true : Int) ceiling ∧ 0 ≤ pods true ∧
        min (hostPods.toNat : Int) ceiling ≤ pods true ∧ pods true ≤ ceiling ∧
        min ceiling (pods false) ≤ pods true) ∧
    (∀ limits' hostPods' prefixes, Fits limits' hostPods' prefixes →
      limits.maxEnis ≤ limits'.maxEnis → limits.ipv4PerEni ≤ limits'.ipv4PerEni →
      limits.vcpus ≤ limits'.vcpus → hostPods ≤ hostPods' →
      pods prefixes ≤ (maxPods limits' hostPods' prefixes).toInt) ∧
    (∀ prefixes,
      maxPods { limits with maxEnis := 0 } hostPods prefixes =
        maxPods { limits with maxEnis := 1 } hostPods prefixes ∧
      maxPods { limits with ipv4PerEni := 0 } hostPods prefixes =
        maxPods { limits with ipv4PerEni := 1 } hostPods prefixes) ∧
    (limits.maxEnis ≤ 536870912 → limits.ipv4PerEni ≤ 536870912 →
      ∀ prefixes, Fits limits hostPods prefixes) := by
  intro pods ceiling
  have host (prefixes : Bool) : (hostPods.toNat : Int) ≤ exactPods limits hostPods prefixes :=
    Int.ofNat_le.2 (hostPods_le_exactPods limits hostPods prefixes)
  have some_ceiling : 0 ≤ ceiling := by
    unfold ceiling
    split
    · decide
    · decide
  refine ⟨?_, ?_, ?_, ?_, ?_⟩
  · intro fits
    have counted : pods false = exactPods limits hostPods false := toInt_maxPods_false fits
    have := host false
    exact ⟨counted, by omega, by omega⟩
  · intro fits
    have counted : pods true = min (exactPods limits hostPods true : Int) ceiling :=
      toInt_maxPods_true fits
    have single : pods false = exactPods limits hostPods false :=
      toInt_maxPods_false fits.of_prefixes
    have fewer : (exactPods limits hostPods false : Int) ≤ exactPods limits hostPods true :=
      Int.ofNat_le.2 (exactPods_false_le_true limits hostPods)
    have := host true
    exact ⟨counted, by omega, by omega, by omega, by omega⟩
  · intro limits' hostPods' prefixes fits enis addresses vcpus more
    exact maxPods_mono fits enis addresses vcpus more
  · intro prefixes
    exact ⟨maxPods_one_interface limits hostPods prefixes,
      maxPods_one_address limits hostPods prefixes⟩
  · intro enis addresses prefixes
    exact fits_of_le enis addresses hostPods prefixes

/-- The largest limits that always fit, with as many host pods as there can be, against those
of a node with one processor more, where the ceiling is higher. -/
theorem maxPods_in_bounds_of_largest :
    let limits : NetworkLimits := ⟨536870912, 536870912, 29⟩
    Fits limits 4294967295 false ∧ Fits limits 4294967295 true ∧
      (maxPods limits 4294967295 false).toInt = 288230379372937216 ∧
      (maxPods limits 4294967295 true).toInt = 110 ∧
      (maxPods limits 4294967295 true).toInt ≤
        (maxPods { limits with vcpus := 30 } 4294967295 true).toInt ∧
      (maxPods limits 4294967295 false).toInt ≤
        (maxPods { limits with vcpus := 30 } 4294967295 false).toInt := by
  intro limits
  obtain ⟨single, whole, larger, -, fits⟩ := maxPods_in_bounds limits 4294967295
  have always : ∀ prefixes, Fits limits 4294967295 prefixes := fits (by decide) (by decide)
  have more (prefixes : Bool) :
      (maxPods limits 4294967295 prefixes).toInt ≤
        (maxPods { limits with vcpus := 30 } 4294967295 prefixes).toInt :=
    larger { limits with vcpus := 30 } 4294967295 prefixes (always prefixes)
      (by decide) (by decide) (by decide) (by decide)
  have exact_false : exactPods limits 4294967295 false = 288230379372937216 := by decide
  have exact_true : exactPods limits 4294967295 true = 4611686005542486031 := by decide
  obtain ⟨counted, -, -⟩ := single (always false)
  obtain ⟨capped, -, -, -, -⟩ := whole (always true)
  refine ⟨always false, always true, ?_, ?_, more true, more false⟩
  · rw [exact_false] at counted
    exact counted
  · rw [exact_true] at capped
    exact capped

/-- A number too large for a word comes out as another one, below zero and far from the ceiling. -/
example : (maxPods ⟨4294967295, 4294967295, 2⟩ 0 true).toInt = -274877906880 := by decide

end WorkerGroup.Bootstrap
