/-
Decimal numbers: writing them and reading them up to a limit.

The reader is the grammar both numeric settings share: an optional plus sign, then one
or more ASCII digits, any number of leading zeros, and a value no larger than the word
that holds it. Everything is on natural numbers; a word size is only a limit.
-/
set_option autoImplicit false

namespace WorkerGroup.Text.Decimal

/-! ## Writing -/

/-- The character of a digit below ten. -/
def digitChar (d : Nat) : Char :=
  Char.ofNat (48 + d)

/-- The decimal digits of a number, most significant first, without leading zeros. -/
def digits (n : Nat) : List Char :=
  if n < 10 then [digitChar n] else digits (n / 10) ++ [digitChar (n % 10)]

/-- The decimal text of an integer: the digits, behind a minus sign when it is negative. -/
def integer : Int → List Char
  | .ofNat n => digits n
  | .negSucc n => '-' :: digits (n + 1)

/-- The digits of a number, filled up with zeros on the left to a width. -/
def padded (width n : Nat) : List Char :=
  List.replicate (width - (digits n).length) '0' ++ digits n

/-! ## Reading -/

/-- Whether a character is an ASCII digit. -/
def isDigit (c : Char) : Bool :=
  '0' ≤ c && c ≤ '9'

/-- The value of a digit. -/
def digitValue (c : Char) : Nat :=
  c.toNat - 48

/-- The value of a text of digits, read from the left. -/
def value (cs : List Char) : Nat :=
  cs.foldl (fun n c => n * 10 + digitValue c) 0

/-- The value of one or more digits; no other text has one. -/
def natural? (cs : List Char) : Option Nat :=
  if cs ≠ [] ∧ cs.all isDigit then some (value cs) else none

/-- A number up to a limit, with an optional plus sign in front. -/
def upTo? (limit : Nat) (cs : List Char) : Option Nat :=
  let unsigned := match cs with
    | '+' :: rest => rest
    | _ => cs
  (natural? unsigned).filter (· ≤ limit)

/-- The largest value of a 32-bit word. -/
def max32 : Nat := 4294967295

/-- The largest value of a 64-bit word. -/
def max64 : Nat := 18446744073709551615

end WorkerGroup.Text.Decimal
