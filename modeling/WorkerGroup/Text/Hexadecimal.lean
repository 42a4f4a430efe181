/-
Hexadecimal numbers: their digits, and reading a run of them.
-/
set_option autoImplicit false

namespace WorkerGroup.Text.Hexadecimal

/-- The lower-case digit of a value below sixteen. -/
def digitChar (v : Nat) : Char :=
  if v < 10 then Char.ofNat (48 + v) else Char.ofNat (87 + v)

/-- The value of a digit of either case. -/
def digitValue? (c : Char) : Option Nat :=
  let n := c.toNat
  if 48 ≤ n ∧ n ≤ 57 then some (n - 48)
  else if 97 ≤ n ∧ n ≤ 102 then some (n - 87)
  else if 65 ≤ n ∧ n ≤ 70 then some (n - 55)
  else none

/-- The value of a run of digits, read from the left. -/
def value? : List Char → Option Nat :=
  List.foldlM (fun n c => (digitValue? c).map (n * 16 + ·)) 0

end WorkerGroup.Text.Hexadecimal
