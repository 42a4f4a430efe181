/-
Decimal digits, written and read.

A number is written in digits only, at least one, and the first is a zero for zero alone
(`head?_digits_eq_zero_iff`); read again they give the number (`value_digits`). Filled up
with zeros they still do (`value_padded`), and a number that fits a width takes up exactly
that width (`length_padded`).

Of one width, digits sort as characters the way they sort as numbers (`lt_iff_value_lt`): a
greater digit further to the left outweighs all that can follow it. So digits of one width and
value are the same ones, and the texts that are read as a number are its digits with zeros in
front (`natural?_eq_some_iff`).
-/
import WorkerGroup.Text.Decimal

set_option autoImplicit false

namespace WorkerGroup.Text.Decimal

/-! ## One digit -/

theorem isDigit_digitChar {d : Nat} (h : d < 10) : isDigit (digitChar d) = true :=
  (by decide : ∀ d < 10, isDigit (digitChar d) = true) d h

theorem digitValue_digitChar {d : Nat} (h : d < 10) : digitValue (digitChar d) = d :=
  (by decide : ∀ d < 10, digitValue (digitChar d) = d) d h

theorem digitChar_eq_zero_iff {d : Nat} (h : d < 10) : digitChar d = '0' ↔ d = 0 :=
  (by decide : ∀ d < 10, digitChar d = '0' ↔ d = 0) d h

/-! ## Writing -/

theorem digits_of_lt {n : Nat} (h : n < 10) : digits n = [digitChar n] := by
  rw [digits, if_pos h]

theorem digits_of_le {n : Nat} (h : 10 ≤ n) :
    digits n = digits (n / 10) ++ [digitChar (n % 10)] := by
  rw [digits, if_neg (Nat.not_lt.2 h)]

/-- Every number is a digit, or has one more digit than its tenth. -/
theorem digits_induction {P : Nat → Prop} (digit : ∀ n < 10, P n)
    (more : ∀ n, 10 ≤ n → P (n / 10) → P n) (n : Nat) : P n := by
  induction n using Nat.strongRecOn with
  | ind n ih =>
    by_cases h : n < 10
    · exact digit n h
    · exact more n (Nat.not_lt.1 h) (ih (n / 10) (by omega))

/-- A number is written with a digit in front. -/
theorem exists_digits_eq_cons (n : Nat) : ∃ d < 10, ∃ cs, digits n = digitChar d :: cs := by
  induction n using digits_induction with
  | digit n h => exact ⟨n, h, [], digits_of_lt h⟩
  | more n h ih =>
    obtain ⟨d, small, cs, written⟩ := ih
    exact ⟨d, small, _, by rw [digits_of_le h, written, List.cons_append]⟩

theorem digits_ne_nil (n : Nat) : digits n ≠ [] := by
  obtain ⟨d, -, cs, written⟩ := exists_digits_eq_cons n
  rw [written]
  exact List.cons_ne_nil _ _

/-- A number is written in digits only. -/
theorem isDigit_of_mem_digits (n : Nat) : ∀ c ∈ digits n, isDigit c = true := by
  induction n using digits_induction with
  | digit n h =>
    rw [digits_of_lt h]
    rintro c (_ | ⟨_, ⟨⟩⟩)
    exact isDigit_digitChar h
  | more n h ih =>
    intro c hc
    rw [digits_of_le h, List.mem_append, List.mem_singleton] at hc
    rcases hc with hc | rfl
    · exact ih c hc
    · exact isDigit_digitChar (Nat.mod_lt n (by decide))

/-- The digits of a number start with a zero for zero alone. -/
theorem head?_digits_eq_zero_iff (n : Nat) : (digits n).head? = some '0' ↔ n = 0 := by
  induction n using digits_induction with
  | digit n h =>
    rw [digits_of_lt h, List.head?_cons, Option.some.injEq]
    exact digitChar_eq_zero_iff h
  | more n h ih =>
    rw [digits_of_le h, List.head?_append,
      Option.or_of_isSome (List.isSome_head?.2 (digits_ne_nil _)), ih]
    omega

/-- A number below a power of ten has no more digits than the power has zeros. -/
theorem length_digits_le {width n : Nat} (h : n < Nat.pow 10 width) (some_width : 0 < width) :
    (digits n).length ≤ width := by
  induction n using digits_induction generalizing width with
  | digit n lt =>
    rw [digits_of_lt lt]
    exact some_width
  | more n le ih =>
    obtain ⟨shorter, rfl⟩ : ∃ w, width = w + 1 := ⟨width - 1, by omega⟩
    have split : Nat.pow 10 (shorter + 1) = Nat.pow 10 shorter * 10 := rfl
    have some_shorter : 0 < shorter := by
      rcases Nat.eq_zero_or_pos shorter with rfl | pos
      · have one : Nat.pow 10 0 = 1 := rfl
        omega
      · exact pos
    have tenth : (digits (n / 10)).length ≤ shorter := ih (by omega) some_shorter
    rw [digits_of_le le, List.length_append, List.length_singleton]
    omega

/-! ## Reading -/

theorem value_concat (cs : List Char) (c : Char) :
    value (cs ++ [c]) = value cs * 10 + digitValue c := by
  rw [value, List.foldl_append]
  rfl

/-- **The digits of a number have its value.** -/
theorem value_digits (n : Nat) : value (digits n) = n := by
  induction n using digits_induction with
  | digit n h =>
    rw [digits_of_lt h]
    exact (Nat.zero_add _).trans (digitValue_digitChar h)
  | more n h ih =>
    rw [digits_of_le h, value_concat, ih, digitValue_digitChar (Nat.mod_lt n (by decide))]
    omega

/-! ## A fixed width -/

/-- Zeros in front change no value. -/
theorem value_replicate_zero_append (k : Nat) (cs : List Char) :
    value (List.replicate k '0' ++ cs) = value cs := by
  have zeros : (List.replicate k '0').foldl (fun n c => n * 10 + digitValue c) 0 = 0 := by
    induction k with
    | zero => rfl
    | succ k ih => exact ih
  rw [value, List.foldl_append, zeros]
  rfl

theorem value_padded (width n : Nat) : value (padded width n) = n := by
  rw [padded, value_replicate_zero_append, value_digits]

/-- Zeros in front of digits are digits as well. -/
theorem isDigit_of_mem_zeros_append (zeros n : Nat) :
    ∀ c ∈ List.replicate zeros '0' ++ digits n, isDigit c = true := by
  intro c hc
  rw [List.mem_append, List.mem_replicate] at hc
  rcases hc with ⟨-, rfl⟩ | hc
  · rfl
  · exact isDigit_of_mem_digits n c hc

theorem isDigit_of_mem_padded (width n : Nat) : ∀ c ∈ padded width n, isDigit c = true :=
  isDigit_of_mem_zeros_append _ n

theorem padded_ne_nil (width n : Nat) : padded width n ≠ [] :=
  List.append_ne_nil_of_right_ne_nil _ (digits_ne_nil n)

/-- A number that fits a width takes up all of it and no more. -/
theorem length_padded {width n : Nat} (h : n < Nat.pow 10 width) (some_width : 0 < width) :
    (padded width n).length = width := by
  have fits := length_digits_le h some_width
  rw [padded, List.length_append, List.length_replicate]
  omega

/-! ## In order -/

/-- Further digits move what was read so far to the left. -/
theorem foldl_digits (n : Nat) (cs : List Char) :
    cs.foldl (fun n c => n * 10 + digitValue c) n = n * Nat.pow 10 cs.length + value cs := by
  induction cs generalizing n with
  | nil => exact (Nat.mul_one n).symm
  | cons c cs ih =>
    have power : Nat.pow 10 (c :: cs).length = 10 * Nat.pow 10 cs.length := Nat.mul_comm _ _
    rw [value, List.foldl_cons, List.foldl_cons, ih, ih, power, Nat.zero_mul, Nat.zero_add,
      ← Nat.mul_assoc, Nat.add_mul, Nat.add_assoc]

theorem value_append (cs ds : List Char) :
    value (cs ++ ds) = value cs * Nat.pow 10 ds.length + value ds := by
  rw [value, List.foldl_append]
  exact foldl_digits (value cs) ds

theorem value_cons (c : Char) (cs : List Char) :
    value (c :: cs) = digitValue c * Nat.pow 10 cs.length + value cs := by
  rw [← List.singleton_append, value_append]
  exact congrArg (fun n => n * Nat.pow 10 cs.length + value cs) (Nat.zero_add (digitValue c))

theorem digitValue_lt_ten {c : Char} (h : isDigit c = true) : digitValue c < 10 := by
  simp only [isDigit, Bool.and_eq_true, decide_eq_true_eq, Char.le_def,
    UInt32.le_iff_toNat_le] at h
  have most : c.toNat ≤ 57 := h.2
  unfold digitValue
  omega

theorem digitValue_lt_iff {c d : Char} (hc : isDigit c = true) (hd : isDigit d = true) :
    digitValue c < digitValue d ↔ c < d := by
  simp only [isDigit, Bool.and_eq_true, decide_eq_true_eq, Char.le_def,
    UInt32.le_iff_toNat_le] at hc hd
  have leastc : 48 ≤ c.toNat := hc.1
  have leastd : 48 ≤ d.toNat := hd.1
  have numbers : c < d ↔ c.toNat < d.toNat := Iff.rfl
  unfold digitValue
  rw [numbers]
  omega

theorem digitValue_inj {c d : Char} (hc : isDigit c = true) (hd : isDigit d = true)
    (h : digitValue c = digitValue d) : c = d := by
  apply Char.le_antisymm
  · exact Char.not_lt.1 fun less => by rw [← digitValue_lt_iff hd hc] at less; omega
  · exact Char.not_lt.1 fun less => by rw [← digitValue_lt_iff hc hd] at less; omega

/-- Digits have a value below the power of ten with as many zeros. -/
theorem value_lt {cs : List Char} (h : ∀ c ∈ cs, isDigit c = true) :
    value cs < Nat.pow 10 cs.length := by
  induction cs with
  | nil => exact Nat.zero_lt_one
  | cons c cs ih =>
    obtain ⟨first, later⟩ := List.forall_mem_cons.1 h
    have power : Nat.pow 10 (c :: cs).length = 10 * Nat.pow 10 cs.length := Nat.mul_comm _ _
    have digit : digitValue c + 1 ≤ 10 := digitValue_lt_ten first
    have most := Nat.mul_le_mul_right (Nat.pow 10 cs.length) digit
    have rest := ih later
    rw [value_cons, power]
    rw [Nat.add_mul] at most
    omega

/-- **Digits of one width are in the order of their values.** -/
theorem lt_iff_value_lt {cs ds : List Char} (hc : ∀ c ∈ cs, isDigit c = true)
    (hd : ∀ d ∈ ds, isDigit d = true) (width : cs.length = ds.length) :
    cs < ds ↔ value cs < value ds := by
  induction cs generalizing ds with
  | nil =>
    rw [List.eq_nil_of_length_eq_zero width.symm]
    exact iff_of_false (List.lt_irrefl _) (Nat.lt_irrefl _)
  | cons c cs ih =>
    cases ds with
    | nil => cases width
    | cons d ds =>
      obtain ⟨firstc, laterc⟩ := List.forall_mem_cons.1 hc
      obtain ⟨firstd, laterd⟩ := List.forall_mem_cons.1 hd
      have width' : cs.length = ds.length := Nat.succ.inj width
      have smallc := value_lt laterc
      have smalld := value_lt laterd
      rw [width'] at smallc
      rw [List.cons_lt_cons_iff, ih laterc laterd width', ← digitValue_lt_iff firstc firstd,
        value_cons, value_cons, width']
      -- A greater first digit outweighs all that can follow.
      rcases Nat.lt_trichotomy (digitValue c) (digitValue d) with less | same | greater
      · have step := Nat.mul_le_mul_right (Nat.pow 10 ds.length) less
        rw [Nat.succ_mul] at step
        exact iff_of_true (.inl less) (by omega)
      · obtain rfl := digitValue_inj firstc firstd same
        rw [or_iff_right (Nat.lt_irrefl _), and_iff_right rfl, Nat.add_lt_add_iff_left]
      · have step := Nat.mul_le_mul_right (Nat.pow 10 ds.length) greater
        rw [Nat.succ_mul] at step
        refine iff_of_false ?_ (by omega)
        rintro (less | ⟨rfl, -⟩)
        · omega
        · exact Nat.lt_irrefl _ greater

/-- What is filled up to a width is read behind other digits in just so many places. -/
theorem value_append_padded {width n : Nat} (h : n < Nat.pow 10 width) (some_width : 0 < width)
    (cs : List Char) : value (cs ++ padded width n) = value cs * Nat.pow 10 width + n := by
  rw [value_append, length_padded h some_width, value_padded]

/-! ## Reading up to a limit -/

/-- A text is the digits of a number behind an optional plus sign and any number of zeros. -/
def Numeral (n : Nat) (cs : List Char) : Prop :=
  ∃ sign zeros, (sign = [] ∨ sign = ['+']) ∧ cs = sign ++ (List.replicate zeros '0' ++ digits n)

/-- Digits are those of their value, filled up to their number. -/
theorem eq_padded_of_isDigit {cs : List Char} (some_char : cs ≠ [])
    (h : ∀ c ∈ cs, isDigit c = true) : cs = padded cs.length (value cs) := by
  have width : cs.length = (padded cs.length (value cs)).length :=
    (length_padded (value_lt h) (List.length_pos_iff.2 some_char)).symm
  have padded_digits := isDigit_of_mem_padded cs.length (value cs)
  -- Neither is less than the other, since both have one value.
  have not_less : ¬ cs < padded cs.length (value cs) := by
    rw [lt_iff_value_lt h padded_digits width, value_padded]
    exact Nat.lt_irrefl _
  have not_greater : ¬ padded cs.length (value cs) < cs := by
    rw [lt_iff_value_lt padded_digits h width.symm, value_padded]
    exact Nat.lt_irrefl _
  exact List.le_antisymm not_greater not_less

/-- **What is read as a number is its digits with zeros in front**, and nothing else. -/
theorem natural?_eq_some_iff {cs : List Char} {n : Nat} :
    natural? cs = some n ↔ ∃ zeros, cs = List.replicate zeros '0' ++ digits n := by
  constructor
  · intro read
    unfold natural? at read
    split at read
    · rename_i whole
      obtain ⟨some_char, all⟩ := whole
      cases read
      exact ⟨_, eq_padded_of_isDigit some_char (List.all_eq_true.1 all)⟩
    · cases read
  · rintro ⟨zeros, rfl⟩
    have some_char : List.replicate zeros '0' ++ digits n ≠ [] :=
      List.append_ne_nil_of_right_ne_nil _ (digits_ne_nil n)
    have all : (List.replicate zeros '0' ++ digits n).all isDigit = true :=
      List.all_eq_true.2 (isDigit_of_mem_zeros_append zeros n)
    rw [natural?, if_pos ⟨some_char, all⟩, value_replicate_zero_append, value_digits]

/-- Nothing but digits and a plus sign is in a numeral. -/
theorem eq_plus_or_isDigit_of_mem_numeral {n : Nat} {cs : List Char} (h : Numeral n cs) :
    ∀ c ∈ cs, c = '+' ∨ isDigit c = true := by
  obtain ⟨sign, zeros, signed, rfl⟩ := h
  intro c listed
  rcases List.mem_append.1 listed with listed | listed
  · rcases signed with rfl | rfl
    · cases listed
    · exact .inl (List.mem_singleton.1 listed)
  · exact .inr (isDigit_of_mem_zeros_append zeros n c listed)

/-- **A number is read up to a limit exactly from its numerals.** -/
theorem upTo?_eq_some_iff {limit n : Nat} {cs : List Char} :
    upTo? limit cs = some n ↔ Numeral n cs ∧ n ≤ limit := by
  unfold upTo?
  rw [Option.filter_eq_some_iff, decide_eq_true_iff]
  apply and_congr_left'
  split
  · rename_i rest
    rw [natural?_eq_some_iff]
    constructor
    · rintro ⟨zeros, rfl⟩
      exact ⟨['+'], zeros, .inr rfl, rfl⟩
    · rintro ⟨sign, zeros, rfl | rfl, written⟩
      · -- A plus sign in front of the zeros and digits would be one of them.
        have digit : isDigit '+' = true := by
          apply isDigit_of_mem_zeros_append zeros n
          rw [← List.nil_append (_ ++ _), ← written]
          exact List.mem_cons_self
        cases digit
      · exact ⟨zeros, (List.cons.inj written).2⟩
  · rename_i unsigned
    rw [natural?_eq_some_iff]
    constructor
    · rintro ⟨zeros, rfl⟩
      exact ⟨[], zeros, .inl rfl, rfl⟩
    · rintro ⟨sign, zeros, rfl | rfl, rfl⟩
      · exact ⟨zeros, rfl⟩
      · exact absurd rfl (unsigned _)

end WorkerGroup.Text.Decimal
