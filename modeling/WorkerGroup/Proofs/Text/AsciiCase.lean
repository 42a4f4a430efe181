/-
Texts that differ in the case of ASCII letters at most.

Names are compared by folding both to small letters. Here is what that comparison accepts,
said without folding: the two texts have equally many characters, and at each place the same
one or the two cases of one ASCII letter (`sameIgnoringCase_iff`). So a character beyond
ASCII stands for nothing but itself, and a blank too many is a difference.
-/
import WorkerGroup.Text.AsciiCase
import Mathlib.Data.List.Forall2

set_option autoImplicit false

namespace WorkerGroup.Text

/-! ## Letters -/

/-- The ASCII letters, each capital with its small letter. -/
def letterCases : List (Char × Char) :=
  "ABCDEFGHIJKLMNOPQRSTUVWXYZ".toList.zip "abcdefghijklmnopqrstuvwxyz".toList

/-- The same character, or the two cases of one ASCII letter. -/
def SameLetter (a b : Char) : Prop :=
  a = b ∨ (a, b) ∈ letterCases ∨ (b, a) ∈ letterCases

instance (a b : Char) : Decidable (SameLetter a b) :=
  inferInstanceAs (Decidable (_ ∨ _ ∨ _))

/-- Folding takes both cases of a letter to the small one. -/
theorem toLower_of_mem_letterCases :
    ∀ p ∈ letterCases, p.1.toLower = p.2 ∧ p.2.toLower = p.2 := by
  decide

theorem fst_eq_of_mem_letterCases :
    ∀ p ∈ letterCases, ∀ q ∈ letterCases, p.2 = q.2 → p.1 = q.1 := by
  decide

/-- The table has every character that folding changes. -/
theorem mem_letterCases_of_isUpper {c : Char} (h : c.isUpper = true) :
    (c, c.toLower) ∈ letterCases := by
  -- A capital is known by its number, so the 26 numbers can be gone through.
  have capitals : ∀ n ∈ List.range' 65 26,
      (Char.ofNat n, (Char.ofNat n).toLower) ∈ letterCases := by
    decide
  have between : 'A'.val ≤ c.val ∧ c.val ≤ 'Z'.val := of_decide_eq_true h
  have code : c.toNat ∈ List.range' 65 26 := by
    rw [UInt32.le_iff_toNat_le, UInt32.le_iff_toNat_le] at between
    rw [List.mem_range'_1]
    exact ⟨between.1, Nat.lt_succ_of_le between.2⟩
  have listed := capitals c.toNat code
  rwa [Char.ofNat_toNat] at listed

/-- What is no capital is its own small letter. -/
theorem toLower_of_not_isUpper {c : Char} (h : ¬ c.isUpper = true) : c.toLower = c := by
  have other : ¬ ('A'.val ≤ c.val ∧ c.val ≤ 'Z'.val) :=
    fun between => h (decide_eq_true between)
  exact dif_neg other

/-- **Folding two characters to one** is what makes them the same letter. -/
theorem toLower_eq_toLower_iff {c d : Char} : c.toLower = d.toLower ↔ SameLetter c d := by
  constructor
  · intro h
    -- What is no capital is not changed, so one of the two is the other's small letter.
    by_cases hc : c.isUpper = true
    · have mc := mem_letterCases_of_isUpper hc
      by_cases hd : d.isUpper = true
      · exact .inl (fst_eq_of_mem_letterCases _ mc _ (mem_letterCases_of_isUpper hd) h)
      · rw [h, toLower_of_not_isUpper hd] at mc
        exact .inr (.inl mc)
    · rw [toLower_of_not_isUpper hc] at h
      by_cases hd : d.isUpper = true
      · have md := mem_letterCases_of_isUpper hd
        rw [← h] at md
        exact .inr (.inr md)
      · rw [toLower_of_not_isUpper hd] at h
        exact .inl h
  · rintro (rfl | h | h)
    · rfl
    · obtain ⟨fold, small⟩ := toLower_of_mem_letterCases _ h
      exact fold.trans small.symm
    · obtain ⟨fold, small⟩ := toLower_of_mem_letterCases _ h
      exact small.trans fold.symm

/-! ## Texts -/

/-- The same letters place by place, in whatever case. -/
def SameLetters (a b : String) : Prop :=
  List.Forall₂ SameLetter a.toList b.toList

instance (a b : String) : Decidable (SameLetters a b) :=
  inferInstanceAs (Decidable (List.Forall₂ SameLetter a.toList b.toList))

theorem foldCase_eq_foldCase_iff {a b : String} : foldCase a = foldCase b ↔ SameLetters a b := by
  rw [SameLetters, foldCase, foldCase, ← List.forall₂_eq_eq_eq, List.forall₂_map_left_iff,
    List.forall₂_map_right_iff]
  simp only [toLower_eq_toLower_iff]

/-- **What is the same when case is ignored** is what has the same letters. -/
theorem sameIgnoringCase_iff {a b : String} : sameIgnoringCase a b = true ↔ SameLetters a b := by
  rw [sameIgnoringCase, beq_iff_eq, foldCase_eq_foldCase_iff]

/-- A character of a text has its counterpart in one of the same letters. -/
theorem SameLetters.exists_of_mem {a b : String} (h : SameLetters a b) {c : Char}
    (listed : c ∈ a.toList) : ∃ d ∈ b.toList, SameLetter c d := by
  rw [← foldCase_eq_foldCase_iff, foldCase, foldCase] at h
  have folded : c.toLower ∈ a.toList.map Char.toLower := List.mem_map_of_mem listed
  rw [h] at folded
  obtain ⟨d, there, same⟩ := List.mem_map.1 folded
  exact ⟨d, there, toLower_eq_toLower_iff.1 same.symm⟩

/-- A full-width letter, a dotted capital and a blank are differences. -/
example :
    SameLetters "Windows" "wINDOWS" ∧ ¬ SameLetters "windows" "ｗindows" ∧
      ¬ SameLetters "windows" "wİndows" ∧ ¬ SameLetters "windows" "windows " := by
  decide

end WorkerGroup.Text
