/-
Integers are plain scalars that are read as what they are.

An integer is written in decimal digits, without a zero in front of others and with no sign but
a minus. None of the readings that a plain scalar could have instead applies to that: it is no
number in another radix, no text of digits, no truth value and no name of nothing. So every
integer comes back that fits a word of 64 bits (`integer?_integer`), which is far from the limits
of the words the format itself knows.
-/
import WorkerGroup.Proofs.Json.RoundTrip
import WorkerGroup.Proofs.Schema.RoundTrip
import WorkerGroup.Yaml.Plain

set_option autoImplicit false

namespace WorkerGroup.Yaml.Plain

open WorkerGroup.Text
open WorkerGroup.Schema (FitsWord)

/-! ## Digits -/

/-- The value of digits with one more behind them. -/
theorem digits?_concat {ds : List Char} {n d : Nat} (some_digit : ds ≠ [])
    (h : digits? 10 ds = some n) (small : d < 10) :
    digits? 10 (ds ++ [Decimal.digitChar d]) = some (n * 10 + d) := by
  have last := (by decide : ∀ d < 10,
    Hexadecimal.digitValue? (Decimal.digitChar d) = some d) d small
  rw [digits?, if_neg (by simpa using some_digit)] at h
  rw [digits?, if_neg (by simp), List.foldlM_append, h]
  simp [last, small]

theorem digits?_digits (n : Nat) : digits? 10 (Decimal.digits n) = some n := by
  induction n using Decimal.digits_induction with
  | digit n h =>
    rw [Decimal.digits_of_lt h]
    exact (by decide : ∀ d < 10, digits? 10 [Decimal.digitChar d] = some d) n h
  | more n h ih =>
    rw [Decimal.digits_of_le h,
      digits?_concat (Decimal.digits_ne_nil _) ih (Nat.mod_lt n (by decide))]
    exact congrArg some (by omega)

/-- The digits of a number are neither in another radix nor a text. -/
theorem magnitude?_digits (n : Nat) : magnitude? (Decimal.digits n) = some n := by
  by_cases zero : n = 0
  · rw [zero, Decimal.digits_of_lt (by decide)]
    rfl
  · obtain ⟨d, small, cs, written⟩ := Decimal.exists_digits_eq_cons n
    have no_zero : Decimal.digitChar d ≠ '0' := by
      intro first
      have head := Decimal.head?_digits_eq_zero_iff n
      rw [written, List.head?_cons, first] at head
      exact zero (head.1 rfl)
    have unmarked : marked? (Decimal.digits n) = none := by
      rw [written, marked?]
      all_goals
        intro more starts
        rw [List.cons.injEq] at starts
        exact no_zero starts.1
    have no_text : hasLeadingZero (Decimal.digits n) = false := by
      rw [written, hasLeadingZero]
      intro e more starts
      rw [List.cons.injEq] at starts
      exact no_zero starts.1
    rw [magnitude?, unmarked]
    simp only [no_text, Bool.false_eq_true, if_false]
    exact digits?_digits n

/-! ## Integers -/

/-- **An integer is read as it was written**, if it fits a word. -/
theorem integer?_integer {n : Int} (h : FitsWord n) :
    integer? (String.ofList (Decimal.integer n)) = some n := by
  obtain ⟨least, most⟩ := h
  have word : wordSize = 340282366920938463463374607431768211456 := by decide
  rw [integer?, String.toList_ofList]
  cases n with
  | ofNat n =>
    have most : n ≤ 18446744073709551615 := Int.ofNat_le.1 most
    obtain ⟨d, small, cs, written⟩ := Decimal.exists_digits_eq_cons n
    have unsigned := (by decide : ∀ d < 10,
      Decimal.digitChar d ≠ '-' ∧ Decimal.digitChar d ≠ '+') d small
    have read : (magnitude? (Decimal.digits n)).bind
        (fun n => if n < wordSize then some (n : Int) else none) = some (Int.ofNat n) := by
      rw [magnitude?_digits, Option.bind_some, if_pos (by omega)]
      rfl
    rw [written] at read
    rw [Decimal.integer, written]
    split
    · rename_i starts
      exact absurd (List.cons.inj starts).1 unsigned.1
    · rename_i starts
      exact absurd (List.cons.inj starts).1 unsigned.2
    · exact read
  | negSucc n =>
    rw [Decimal.integer]
    show (magnitude? (Decimal.digits (n + 1))).bind _ = _
    rw [magnitude?_digits, Option.bind_some, if_pos (by omega)]
    rfl

/-- The text of an integer starts with a digit or a minus sign, so it is no other word. -/
theorem contains_integer_eq_false {words : List String}
    (h : ∀ word ∈ words, word.toList.head?.all (!Json.numberChars.contains ·) = true) (n : Int) :
    words.contains (String.ofList (Decimal.integer n)) = false := by
  rw [← Bool.not_eq_true, List.contains_iff_mem]
  intro mem
  obtain ⟨c, number, cs, written⟩ := Json.exists_integer_eq_cons n
  have other := h _ mem
  rw [String.toList_ofList, written, List.head?_cons, Option.all_some,
    List.contains_iff_mem.2 number] at other
  exact Bool.false_ne_true other

theorem isNothing_integer (n : Int) :
    isNothing (String.ofList (Decimal.integer n)) = false := by
  have no_word : ["", "~", "null", "Null", "NULL"].contains
      (String.ofList (Decimal.integer n)) = false := contains_integer_eq_false (by decide) n
  rw [List.contains_cons, Bool.or_eq_false_iff] at no_word
  rw [isNothing, namesNothing, no_word.2, Bool.or_false]
  exact no_word.1

theorem flag?_integer (n : Int) : flag? (String.ofList (Decimal.integer n)) = none := by
  rw [flag?, contains_integer_eq_false (by decide), contains_integer_eq_false (by decide)]
  rfl

theorem integerOrText?_integer {n : Int} (h : FitsWord n) :
    integerOrText? (String.ofList (Decimal.integer n)) = some (.inl n) := by
  rw [integerOrText?, isNothing_integer, flag?_integer, integer?_integer h]
  rfl

end WorkerGroup.Yaml.Plain
