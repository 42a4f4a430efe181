/-
An instant is read as it was written.

The reader is lenient and the writer is strict, so nothing about the one follows from the
other being its mirror: blanks are skipped, fields may be short, and a year may have any
number of digits behind a sign. What is shown here is that none of that leniency touches a
written text. Every field is written in its full width and followed by something that is no
digit, so it is read to its end and no further (`number?_append`); the fraction has a digit
for each place that counts (`fraction?_fractionText`); and the zone is that of UTC, which
moves nothing (`atOffset?_zero`). The years of four digits, those before and those after
them are all read back, and so are leap seconds.
-/
import WorkerGroup.Instant.Text
import WorkerGroup.Proofs.Lists
import WorkerGroup.Proofs.Text.Blank
import WorkerGroup.Proofs.Text.Decimal

set_option autoImplicit false

namespace WorkerGroup.Instant

open WorkerGroup.Text WorkerGroup.Text.Decimal

/-! ## Characters -/

/-- Trimming leaves a text alone that starts with a digit. -/
theorem trimStart_append {ds : List Char} (digits : ∀ c ∈ ds, isDigit c = true)
    (some_digit : ds ≠ []) (rest : List Char) : trimStart (ds ++ rest) = ds ++ rest :=
  trimStart_append_of_solid (fun c hc => isBlank_of_isDigit (digits c hc)) some_digit rest

/-! ## Fields -/

/-- **A field is read to its end**, if it fits and no digit follows it. -/
theorem number?_append {most : Nat} {ds rest : List Char}
    (digits : ∀ c ∈ ds, isDigit c = true) (some_digit : ds ≠ []) (fits : ds.length ≤ most)
    (stop : ∀ c ∈ rest.head?, isDigit c = false) :
    number? most (ds ++ rest) = some (value ds, rest) := by
  have within : ((ds ++ rest).take most).takeWhile isDigit = ds := by
    rw [List.take_append, List.take_of_length_le fits]
    refine Lists.takeWhile_append_of_stop digits fun c hc => stop c ?_
    rw [List.head?_take] at hc
    split at hc
    · cases hc
    · exact hc
  rw [number?]
  simp only [within]
  rw [if_neg some_digit, List.drop_left]

/-- A number that is filled up to a width is read from that width. -/
theorem number?_padded {width most n : Nat} {rest : List Char} (small : n < Nat.pow 10 width)
    (some_width : 0 < width) (fits : width ≤ most)
    (stop : ∀ c ∈ rest.head?, isDigit c = false) :
    number? most (padded width n ++ rest) = some (n, rest) := by
  rw [number?_append (isDigit_of_mem_padded width n) (padded_ne_nil width n)
    (by rw [length_padded small some_width]; exact fits) stop, value_padded]

theorem twoDigits?_padded {n : Nat} {rest : List Char} (small : n < 100)
    (stop : ∀ c ∈ rest.head?, isDigit c = false) :
    twoDigits? (padded 2 n ++ rest) = some (n, rest) := by
  rw [twoDigits?, trimStart_append (isDigit_of_mem_padded 2 n) (padded_ne_nil 2 n),
    number?_padded small (by decide) (by decide) stop]

/-- A separator is taken off. -/
theorem after?_cons {c : Char} (h : isBlank c = false) (rest : List Char) :
    after? c (c :: rest) = some rest := by
  rw [after?, trimStart_cons h]
  exact if_pos rfl

/-- A year is read before a hyphen, be it written with a sign or without. -/
theorem year?_yearText (year : Int) (rest : List Char) :
    year? (yearText year ++ '-' :: rest) = some (year, '-' :: rest) := by
  have stop : ∀ c ∈ ('-' :: rest).head?, isDigit c = false := by
    rintro c ⟨⟩
    rfl
  -- Behind a sign a year has as many digits as it takes.
  have signed (n : Nat) :
      number? (padded 4 n ++ '-' :: rest).length (padded 4 n ++ '-' :: rest) =
        some (n, '-' :: rest) := by
    rw [number?_append (isDigit_of_mem_padded 4 n) (padded_ne_nil 4 n)
      (by rw [List.length_append]; exact Nat.le_add_right _ _) stop, value_padded]
  rw [yearText]
  by_cases four : 0 ≤ year ∧ year ≤ 9999
  · obtain ⟨d, more, written⟩ := List.exists_cons_of_ne_nil (padded_ne_nil 4 year.toNat)
    have digit : isDigit d = true :=
      isDigit_of_mem_padded 4 year.toNat d (written ▸ List.mem_cons_self)
    have read : number? 4 (padded 4 year.toNat ++ '-' :: rest) =
        some (year.toNat, '-' :: rest) :=
      number?_padded (by have pow : Nat.pow 10 4 = 10000 := rfl; omega) (by decide) (by decide) stop
    rw [if_pos four, year?, trimStart_append (isDigit_of_mem_padded 4 _) (padded_ne_nil 4 _)]
    split
    · rename_i minus
      rw [written, List.cons_append, List.cons.injEq] at minus
      rw [minus.1] at digit
      cases digit
    · rename_i plus
      rw [written, List.cons_append, List.cons.injEq] at plus
      rw [plus.1] at digit
      cases digit
    · rw [read, Option.map_some]
      exact congrArg (fun y => some (y, '-' :: rest)) (Int.toNat_of_nonneg four.1)
  · rw [if_neg four]
    by_cases negative : year < 0
    · rw [if_pos negative, List.cons_append, year?, trimStart_cons rfl]
      simp only [signed, Option.map_some]
      congr 2
      omega
    · rw [if_neg negative, List.cons_append, year?, trimStart_cons rfl]
      simp only [signed, Option.map_some]
      congr 2
      omega

/-! ## The fraction -/

/-- The reader multiplies what it read up to nanoseconds. -/
theorem fraction?_padded {width n : Nat} {rest : List Char} (small : n < Nat.pow 10 width)
    (some_width : 0 < width) (fits : width ≤ 9) (stop : ∀ c ∈ rest.head?, isDigit c = false) :
    fraction? ('.' :: padded width n ++ rest) = some (n * Nat.pow 10 (9 - width), rest) := by
  have read : number? 9 (padded width n ++ rest) = some (n, rest) :=
    number?_padded small some_width fits stop
  have written : (padded width n ++ rest).length - rest.length = width := by
    rw [List.length_append, length_padded small some_width, Nat.add_sub_cancel]
  have done : ([] ++ rest).dropWhile isDigit = rest :=
    Lists.dropWhile_append_of_stop nofun stop
  rw [List.nil_append] at done
  rw [List.cons_append, fraction?]
  simp only [read, Option.bind_eq_bind, Option.bind_some, written, done]

/-- **A fraction is read exactly**, in however many places it was written. -/
theorem fraction?_fractionText {nanosecond : Nat} (small : nanosecond < 1000000000) :
    fraction? (fractionText nanosecond ++ ['Z']) = some (nanosecond, ['Z']) := by
  have stop : ∀ c ∈ ['Z'].head?, isDigit c = false := by
    rintro c ⟨⟩
    rfl
  have three : Nat.pow 10 3 = 1000 := rfl
  have six : Nat.pow 10 6 = 1000000 := rfl
  have nine : Nat.pow 10 9 = 1000000000 := rfl
  rw [fractionText]
  -- In each of the three widths what is left out is zero, so the quotient is exact.
  split
  · rename_i none
    rw [none]
    rfl
  · split
    · rename_i whole
      have exact : nanosecond / 1000000 * Nat.pow 10 (9 - 3) = nanosecond :=
        Nat.div_mul_cancel (Nat.dvd_of_mod_eq_zero whole)
      rw [fraction?_padded (by omega) (by decide) (by decide) stop, exact]
    · split
      · rename_i whole
        have exact : nanosecond / 1000 * Nat.pow 10 (9 - 6) = nanosecond :=
          Nat.div_mul_cancel (Nat.dvd_of_mod_eq_zero whole)
        rw [fraction?_padded (by omega) (by decide) (by decide) stop, exact]
      · have exact : nanosecond * Nat.pow 10 (9 - 9) = nanosecond := Nat.mul_one nanosecond
        rw [fraction?_padded (by omega) (by decide) (by decide) stop, exact]

/-! ## Instants -/

/-- A clock that shows UTC shows the instant. -/
theorem atOffset?_zero (t : Instant) :
    atOffset? t.date t.hour t.minute t.second t.nanosecond 0 = some t := by
  have hours := t.hour_lt
  have minutes := t.minute_lt
  have inDay : ¬ ((t.hour * 60 + t.minute : Nat) : Int) - 0 < 0 := by omega
  have sameDay : ((t.hour * 60 + t.minute : Nat) : Int) - 0 < 1440 := by omega
  have hour : (((t.hour * 60 + t.minute : Nat) : Int) - 0).toNat / 60 = t.hour := by omega
  have minute : (((t.hour * 60 + t.minute : Nat) : Int) - 0).toNat % 60 = t.minute := by omega
  rw [atOffset?, if_pos ⟨t.date_exists, hours, minutes, by decide, by decide⟩]
  simp only [if_neg inDay, if_pos sameDay, hour, minute]
  rw [of?, dif_pos ⟨t.date_exists, hours, minutes, t.second_le, t.nanosecond_lt⟩]

/-- The day of a date has two digits at most. -/
theorem day_lt {d : Date} (h : d.Exists) : d.day < 100 := by
  obtain ⟨-, -, -, -, -, day⟩ := h
  rw [daysInMonth] at day
  split at day
  · split at day <;> omega
  · split at day
    · omega
    · split at day <;> omega

/-- **An instant is read as it was written**, in whatever year and with whatever fraction. -/
theorem read?_text (t : Instant) : read? t.text = some t := by
  have month : t.date.month < 100 := by
    have := t.date_exists.2.2.2.1
    omega
  have hour := t.hour_lt
  have minute := t.minute_lt
  have second := t.second_le
  have separated {c : Char} (h : isDigit c = false) (rest : List Char) :
      ∀ d ∈ (c :: rest).head?, isDigit d = false := by
    rintro d ⟨⟩
    exact h
  have end_of_second : ∀ c ∈ (fractionText t.nanosecond ++ ['Z']).head?, isDigit c = false := by
    rw [fractionText]
    split
    · exact separated rfl _
    · split
      · exact separated rfl _
      · split
        · exact separated rfl _
        · exact separated rfl _
  rw [read?, text, String.toList_ofList]
  simp only [List.append_assoc, List.cons_append, Option.bind_eq_bind]
  rw [year?_yearText, Option.bind_some, after?_cons rfl, Option.bind_some,
    twoDigits?_padded month (separated rfl _), Option.bind_some, after?_cons rfl,
    Option.bind_some, twoDigits?_padded (day_lt t.date_exists) (separated rfl _)]
  simp only [Option.bind_some, true_or, if_true]
  rw [twoDigits?_padded (by omega) (separated rfl _), Option.bind_some, after?_cons rfl,
    Option.bind_some, twoDigits?_padded (by omega) (separated rfl _), Option.bind_some,
    after?_cons rfl, Option.bind_some, twoDigits?_padded (by omega) end_of_second,
    Option.bind_some, fraction?_fractionText t.nanosecond_lt, Option.bind_some]
  exact atOffset?_zero t

/-- In whole seconds the fraction is lost and nothing else. -/
theorem read?_wholeSecondText (t : Instant) : read? t.wholeSecondText = some t.wholeSecond :=
  read?_text t.wholeSecond

end WorkerGroup.Instant
