/-
Instants: moments of time, in UTC, by the calendar.

An instant is kept by the fields of its calendar date and time of day, not as a count
from an epoch. Everything the library does with instants is said in those fields: they
are read and written field by field, compared from the year down, and moved between UTC
offsets by less than a day, which changes the date by at most one day. A leap second is
the second numbered sixty, in its place after fifty-nine.
-/
set_option autoImplicit false

namespace WorkerGroup

/-! ## The calendar -/

/-- Whether a year has a 29 February. -/
def isLeapYear (year : Int) : Bool :=
  year % 4 == 0 && (year % 100 != 0 || year % 400 == 0)

/-- The days of a month; a number that names no month has none. -/
def daysInMonth (year : Int) (month : Nat) : Nat :=
  if month = 2 then (if isLeapYear year then 29 else 28)
  else if month = 4 ∨ month = 6 ∨ month = 9 ∨ month = 11 then 30
  else if 1 ≤ month ∧ month ≤ 12 then 31
  else 0

/-- The first and the last year an instant may fall in. -/
def minYear : Int := -262143

/-- The last year an instant may fall in. -/
def maxYear : Int := 262142

/-- A calendar date, not yet known to exist. -/
structure Date where
  year : Int
  month : Nat
  day : Nat
deriving DecidableEq, Repr

/-- Whether the calendar has a date, in the years instants may fall in. -/
def Date.Exists (d : Date) : Prop :=
  minYear ≤ d.year ∧ d.year ≤ maxYear ∧ 1 ≤ d.month ∧ d.month ≤ 12 ∧
    1 ≤ d.day ∧ d.day ≤ daysInMonth d.year d.month

instance (d : Date) : Decidable d.Exists := by
  unfold Date.Exists; infer_instance

/-- The day before. -/
def Date.previous (d : Date) : Date :=
  if 1 < d.day then { d with day := d.day - 1 }
  else if 1 < d.month then
    { d with month := d.month - 1, day := daysInMonth d.year (d.month - 1) }
  else { year := d.year - 1, month := 12, day := 31 }

/-- The day after. -/
def Date.next (d : Date) : Date :=
  if d.day < daysInMonth d.year d.month then { d with day := d.day + 1 }
  else if d.month < 12 then { d with month := d.month + 1, day := 1 }
  else { year := d.year + 1, month := 1, day := 1 }

/-! ## Instants -/

/-- A moment in UTC. -/
structure Instant where
  date : Date
  hour : Nat
  minute : Nat
  /-- Sixty is a leap second. -/
  second : Nat
  nanosecond : Nat
  date_exists : date.Exists
  hour_lt : hour < 24
  minute_lt : minute < 60
  second_le : second ≤ 60
  nanosecond_lt : nanosecond < 1000000000
deriving DecidableEq

namespace Instant

/-- The instant of a date and a time of day, if the calendar and the clock have them. -/
def of? (date : Date) (hour minute second nanosecond : Nat) : Option Instant :=
  if h : date.Exists ∧ hour < 24 ∧ minute < 60 ∧ second ≤ 60 ∧ nanosecond < 1000000000 then
    some ⟨date, hour, minute, second, nanosecond, h.1, h.2.1, h.2.2.1, h.2.2.2.1, h.2.2.2.2⟩
  else none

/-- The instant at which a clock that runs `offset` minutes ahead of UTC shows a date and
a time of day. The offset is less than a day, so the date moves by at most one day. -/
def atOffset? (date : Date) (hour minute second nanosecond : Nat) (offset : Int) :
    Option Instant :=
  if date.Exists ∧ hour < 24 ∧ minute < 60 ∧ -1440 < offset ∧ offset < 1440 then
    let minutes : Int := (hour * 60 + minute : Nat) - offset
    let moved := if minutes < 0 then (date.previous, minutes + 1440)
      else if minutes < 1440 then (date, minutes)
      else (date.next, minutes - 1440)
    of? moved.1 (moved.2.toNat / 60) (moved.2.toNat % 60) second nanosecond
  else none

/-- The instant with the fraction of its second cut off. -/
def wholeSecond (t : Instant) : Instant :=
  { t with nanosecond := 0, nanosecond_lt := by decide }

/-- The fields from the year down. Instants are in the order of these lists. -/
def fields (t : Instant) : List Int :=
  [t.date.year, t.date.month, t.date.day, t.hour, t.minute, t.second, t.nanosecond]

end Instant

end WorkerGroup
