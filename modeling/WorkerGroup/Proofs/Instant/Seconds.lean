/-
Instants as a count of seconds.

An instant is kept by the calendar, and time does not go by the calendar: its years and months
have different lengths. So the seconds are counted here, from the start of 1970 on, as a clock
without leap seconds counts them. A year adds 366 days or 365 (`daysBeforeYear_add_one`), a
month what it has, and the day after a date has the next number (`dayNumber_next`), be it at the
end of a month, of a year or of a century.

The fields from the year down are in the order of that count (`seconds_lt_iff`). That is all
the calendar has to give: a day is not behind the last of its month, nor a month behind the
last of its year, so whatever stands behind a smaller field comes to less than one step of it.
-/
import WorkerGroup.Instant
import Mathlib.Order.Monotone.Basic

set_option autoImplicit false

namespace WorkerGroup

/-! ## Years and months -/

/-- The days before a year, from the first day of the year 1 on. -/
def daysBeforeYear (year : Int) : Int :=
  365 * (year - 1) + (year - 1) / 4 - (year - 1) / 100 + (year - 1) / 400

/-- The days of a year before a month. -/
def daysBeforeMonth (year : Int) : Nat → Nat
  | 0 => 0
  | month + 1 => daysBeforeMonth year month + daysInMonth year month

theorem isLeapYear_iff {year : Int} :
    isLeapYear year = true ↔ year % 4 = 0 ∧ (year % 100 ≠ 0 ∨ year % 400 = 0) := by
  simp only [isLeapYear, Bool.and_eq_true, Bool.or_eq_true, beq_iff_eq, bne_iff_ne]

theorem daysBeforeYear_add_one (year : Int) :
    daysBeforeYear (year + 1) = daysBeforeYear year + if isLeapYear year then 366 else 365 := by
  unfold daysBeforeYear
  by_cases leap : isLeapYear year = true
  · rw [if_pos leap]
    rw [isLeapYear_iff] at leap
    omega
  · rw [if_neg leap]
    rw [isLeapYear_iff] at leap
    omega

/-- A year ends with its last month. -/
theorem daysBeforeMonth_thirteen (year : Int) :
    daysBeforeMonth year 13 = if isLeapYear year then 366 else 365 := by
  unfold daysBeforeMonth
  cases leap : isLeapYear year <;> simp [daysBeforeMonth, daysInMonth, leap]

theorem daysBeforeMonth_mono {year : Int} {m m' : Nat} (h : m ≤ m') :
    daysBeforeMonth year m ≤ daysBeforeMonth year m' :=
  monotone_nat_of_le_succ (fun _ => Nat.le_add_right _ _) h

theorem daysBeforeYear_mono {y y' : Int} (h : y ≤ y') : daysBeforeYear y ≤ daysBeforeYear y' := by
  unfold daysBeforeYear
  omega

/-! ## Days -/

namespace Date

/-- The number of a day; the first day of 1970 is the day zero. -/
def dayNumber (d : Date) : Int :=
  daysBeforeYear d.year + daysBeforeMonth d.year d.month + d.day - 719163

/-- The date comes before another, from the year down. -/
def Before (d e : Date) : Prop :=
  d.year < e.year ∨ d.year = e.year ∧ (d.month < e.month ∨ d.month = e.month ∧ d.day < e.day)

theorem before_trichotomous (d e : Date) : d.Before e ∨ d = e ∨ e.Before d := by
  obtain ⟨y, m, n⟩ := d
  obtain ⟨y', m', n'⟩ := e
  simp only [Before, mk.injEq]
  omega

theorem not_before_self (d : Date) : ¬ d.Before d := by
  unfold Before
  omega

variable {d e : Date}

/-- A date is not behind the end of its month. -/
theorem dayNumber_lt_next_month (h : d.Exists) :
    d.dayNumber < daysBeforeYear d.year + daysBeforeMonth d.year (d.month + 1) + 1 - 719163 := by
  obtain ⟨-, -, -, -, -, day⟩ := h
  rw [dayNumber, daysBeforeMonth]
  omega

/-- A date is not behind the end of its year. -/
theorem dayNumber_lt_next_year (h : d.Exists) :
    d.dayNumber < daysBeforeYear (d.year + 1) + 1 - 719163 := by
  have month := dayNumber_lt_next_month h
  have last_month : d.month ≤ 12 := h.2.2.2.1
  have rest : daysBeforeMonth d.year (d.month + 1) ≤ daysBeforeMonth d.year 13 :=
    daysBeforeMonth_mono (by omega)
  have year := daysBeforeYear_add_one d.year
  rw [daysBeforeMonth_thirteen] at rest
  by_cases leap : isLeapYear d.year = true
  · rw [if_pos leap] at rest year
    omega
  · rw [if_neg leap] at rest year
    omega

theorem dayNumber_lt_of_before (hd : d.Exists) (he : e.Exists) (h : d.Before e) :
    d.dayNumber < e.dayNumber := by
  have first : 1 ≤ e.day := he.2.2.2.2.1
  rcases h with year | ⟨year, month | ⟨month, day⟩⟩
  · have this_year := dayNumber_lt_next_year hd
    have years : daysBeforeYear (d.year + 1) ≤ daysBeforeYear e.year := daysBeforeYear_mono year
    unfold dayNumber at this_year ⊢
    omega
  · have this_month := dayNumber_lt_next_month hd
    have months : daysBeforeMonth d.year (d.month + 1) ≤ daysBeforeMonth d.year e.month :=
      daysBeforeMonth_mono month
    unfold dayNumber at this_month ⊢
    rw [← year]
    omega
  · unfold dayNumber
    rw [year, month]
    omega

/-- **The calendar is in the order of the days.** -/
theorem dayNumber_lt_iff (hd : d.Exists) (he : e.Exists) :
    d.dayNumber < e.dayNumber ↔ d.Before e := by
  refine ⟨fun less => ?_, dayNumber_lt_of_before hd he⟩
  rcases before_trichotomous d e with before | rfl | behind
  · exact before
  · exact absurd less (Int.lt_irrefl _)
  · exact absurd (dayNumber_lt_of_before he hd behind) (Int.not_lt.2 (Int.le_of_lt less))

/-- **The day after a date has the next number.** -/
theorem dayNumber_next (h : d.Exists) : d.next.dayNumber = d.dayNumber + 1 := by
  obtain ⟨-, -, some_month, month, -, day⟩ := h
  unfold next
  split
  · unfold dayNumber
    push_cast
    omega
  · rename_i last_day
    split
    · unfold dayNumber
      simp only [daysBeforeMonth]
      omega
    · rename_i last_month
      have twelve : d.month = 12 := by omega
      have year := daysBeforeYear_add_one d.year
      have months := daysBeforeMonth_thirteen d.year
      have january (y : Int) : daysBeforeMonth y 1 = 0 := rfl
      unfold dayNumber
      rw [daysBeforeMonth, ← twelve] at months
      simp only [january]
      by_cases leap : isLeapYear d.year = true
      · rw [if_pos leap] at year months
        omega
      · rw [if_neg leap] at year months
        omega

example : (Date.mk 1970 1 1).dayNumber = 0 ∧ (Date.mk 2000 2 29).dayNumber = 11016 := by decide

end Date

/-! ## Seconds -/

namespace Instant

variable {s t : Instant}

/-- The seconds from the start of 1970 to that of the instant's second. -/
def seconds (t : Instant) : Int :=
  t.date.dayNumber * 86400 + (t.hour * 3600 + t.minute * 60 + t.second : Nat)

/-- **Instants are in the order of their seconds** by date and time of day, leap seconds apart,
which have no place of their own in the count. -/
theorem seconds_lt_iff (hs : s.second < 60) (ht : t.second < 60) :
    s.seconds < t.seconds ↔
      s.date.Before t.date ∨ s.date = t.date ∧
        (s.hour * 60 + s.minute) * 60 + s.second < (t.hour * 60 + t.minute) * 60 + t.second := by
  have hour := s.hour_lt
  have hour' := t.hour_lt
  have minute := s.minute_lt
  have minute' := t.minute_lt
  unfold seconds
  rcases Date.before_trichotomous s.date t.date with before | same | behind
  · have days := Date.dayNumber_lt_of_before s.date_exists t.date_exists before
    exact iff_of_true (by omega) (.inl before)
  · rw [same, or_iff_right (Date.not_before_self t.date), and_iff_right rfl]
    omega
  · have days := Date.dayNumber_lt_of_before t.date_exists s.date_exists behind
    refine iff_of_false (by omega) ?_
    rw [← Date.dayNumber_lt_iff s.date_exists t.date_exists]
    rintro (before | ⟨same, -⟩)
    · omega
    · rw [same] at days
      omega

/-- What falls in an earlier second is earlier by its fields. -/
theorem fields_lt_of_seconds_lt (hs : s.second < 60) (ht : t.second < 60)
    (h : s.seconds < t.seconds) : s.fields < t.fields := by
  rw [seconds_lt_iff hs ht] at h
  have minute := s.minute_lt
  have minute' := t.minute_lt
  unfold fields
  simp only [List.cons_lt_cons_iff]
  rcases h with before | ⟨same, clock⟩
  · unfold Date.Before at before
    omega
  · rw [same]
    omega

end Instant

end WorkerGroup
