/-
Instants as text.

The written form is the profile of ISO 8601 that internet protocols use:
`2024-05-01T12:30:00Z`, with as many groups of three fraction digits as the value needs.
A resource's own timestamps are written in whole seconds instead, and a name that only
has to sort by age carries the fields without separators.

The reader is lenient where the writer is not. The date and the time are separated by
`T`, `t` or a space; a field may have fewer digits than its place; blanks may stand
before a number or a separator; a zone may be `Z`, `UTC` or an offset with or without a
colon. What it reads is converted to UTC.
-/
import WorkerGroup.Instant
import WorkerGroup.Text.Blank
import WorkerGroup.Text.Decimal

set_option autoImplicit false

namespace WorkerGroup.Instant

open WorkerGroup.Text WorkerGroup.Text.Decimal

/-! ## Writing -/

/-- Four digits for the years 0 to 9999, a sign and at least four digits for all others. -/
def yearText (year : Int) : List Char :=
  if 0 ≤ year ∧ year ≤ 9999 then padded 4 year.toNat
  else (if year < 0 then '-' else '+') :: padded 4 year.natAbs

/-- The fraction of a second: nothing, or three, six or nine digits, the fewest that
are exact. -/
def fractionText (nanosecond : Nat) : List Char :=
  if nanosecond = 0 then []
  else if nanosecond % 1000000 = 0 then '.' :: padded 3 (nanosecond / 1000000)
  else if nanosecond % 1000 = 0 then '.' :: padded 6 (nanosecond / 1000)
  else '.' :: padded 9 nanosecond

/-- The instant in UTC with its exact fraction. -/
def text (t : Instant) : String :=
  String.ofList <|
    yearText t.date.year ++ '-' :: padded 2 t.date.month ++ '-' :: padded 2 t.date.day ++
    'T' :: padded 2 t.hour ++ ':' :: padded 2 t.minute ++ ':' :: padded 2 t.second ++
    fractionText t.nanosecond ++ ['Z']

/-- The instant in UTC in whole seconds, the fraction cut off. -/
def wholeSecondText (t : Instant) : String :=
  t.wholeSecond.text

/-- The fields of the instant's second, one after the other. -/
def stamp (t : Instant) : String :=
  String.ofList <|
    yearText t.date.year ++ padded 2 t.date.month ++ padded 2 t.date.day ++
    padded 2 t.hour ++ padded 2 t.minute ++ padded 2 t.second

/-! ## Reading -/

/-- A number of one to `most` digits at the start of a text, and what follows it. -/
def number? (most : Nat) (cs : List Char) : Option (Nat × List Char) :=
  let ds := (cs.take most).takeWhile isDigit
  if ds = [] then none else some (value ds, cs.drop ds.length)

/-- A field of one or two digits, blanks before it skipped. -/
def twoDigits? (cs : List Char) : Option (Nat × List Char) :=
  number? 2 (trimStart cs)

/-- A year: up to four digits, or a sign and any number of them. -/
def year? (cs : List Char) : Option (Int × List Char) :=
  match trimStart cs with
  | '-' :: rest => (number? rest.length rest).map fun (n, r) => (-(n : Int), r)
  | '+' :: rest => (number? rest.length rest).map fun (n, r) => ((n : Int), r)
  | rest => (number? 4 rest).map fun (n, r) => ((n : Int), r)

/-- What follows a separator, blanks before it skipped. -/
def after? (separator : Char) (cs : List Char) : Option (List Char) :=
  match trimStart cs with
  | c :: rest => if c = separator then some rest else none
  | [] => none

/-- The fraction of a second in nanoseconds; digits past the ninth are dropped. -/
def fraction? : List Char → Option (Nat × List Char)
  | '.' :: rest => do
    let (n, after) ← number? 9 rest
    let written := rest.length - after.length
    some (n * Nat.pow 10 (9 - written), after.dropWhile isDigit)
  | rest => some (0, rest)

/-- The minutes of a zone: two digits, the first below six. -/
def zoneMinutes? : List Char → Option (Nat × List Char)
  | a :: b :: rest =>
    if '0' ≤ a ∧ a ≤ '5' ∧ isDigit b then some (digitValue a * 10 + digitValue b, rest)
    else none
  | _ => none

/-- The hours of a zone: two digits. -/
def zoneHours? : List Char → Option (Nat × List Char)
  | a :: b :: rest =>
    if isDigit a ∧ isDigit b then some (digitValue a * 10 + digitValue b, rest) else none
  | _ => none

/-- The sign of a zone: a plus, a hyphen or a minus sign. -/
def zoneSign? : List Char → Option (Int × List Char)
  | '+' :: rest => some (1, rest)
  | '-' :: rest => some (-1, rest)
  | '\u2212' :: rest => some (-1, rest)
  | _ => none

/-- The minutes a zone is ahead of UTC, and what follows it. -/
def zone? (cs : List Char) : Option (Int × List Char) :=
  match cs with
  | 'Z' :: rest => some (0, rest)
  | 'z' :: rest => some (0, rest)
  | _ =>
    if (cs.take 3).map Char.toUpper = ['U', 'T', 'C'] then some (0, cs.drop 3)
    else do
      let (sign, cs) ← zoneSign? cs
      let (hours, cs) ← zoneHours? cs
      let (minutes, cs) ← zoneMinutes? (cs.dropWhile fun c => c = ':' || isBlank c)
      some (sign * ((hours * 60 + minutes : Nat) : Int), cs)

/-- The instant a text names; nothing but blanks may follow it. -/
def read? (s : String) : Option Instant := do
  let (year, cs) ← year? s.toList
  let cs ← after? '-' cs
  let (month, cs) ← twoDigits? cs
  let cs ← after? '-' cs
  let (day, cs) ← twoDigits? cs
  let cs ← match cs with
    | c :: rest => if c = 'T' ∨ c = 't' ∨ c = ' ' then some rest else none
    | [] => none
  let (hour, cs) ← twoDigits? cs
  let cs ← after? ':' cs
  let (minute, cs) ← twoDigits? cs
  let cs ← after? ':' cs
  let (second, cs) ← twoDigits? cs
  let (nanosecond, cs) ← fraction? cs
  let (offset, cs) ← zone? (trimStart cs)
  if trimStart cs = [] then
    atOffset? ⟨year, month, day⟩ hour minute second nanosecond offset
  else none

end WorkerGroup.Instant
