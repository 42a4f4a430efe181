/-
Sub-families: the part of an instance type's name that says which types are alike.

The name of an instance type is a class, a dot and a size. A class is a family, a
generation and attributes, as in `c5d`: letters, digits and further letters. The
sub-family of a type keeps the family and the generation and drops the attributes, so
`c5d.xlarge` and `c5n.xlarge` belong to the sub-family `c5` of size `xlarge`. A class
without generation digits is a family of its own.
-/
import WorkerGroup.Text.Decimal

set_option autoImplicit false

namespace WorkerGroup

/-- The family and generation of an instance type, and its size. -/
structure SubFamily where
  base : String
  size : String
deriving DecidableEq, Repr

namespace SubFamily

/-- Whether a character is an ASCII letter. -/
def isLetter (c : Char) : Bool :=
  ('a' ≤ c && c ≤ 'z') || ('A' ≤ c && c ≤ 'Z')

/-- The family and the generation of a class: its letters and the digits after them, or
all of it when no digit follows the letters. -/
def baseOf (cls : List Char) : List Char :=
  let letters := cls.takeWhile isLetter
  let generation := (cls.dropWhile isLetter).takeWhile Text.Decimal.isDigit
  if generation = [] then cls else letters ++ generation

/-- The sub-family of an instance type: its name has a dot, with something before the
first one and something after it. -/
def ofInstanceType? (instanceType : String) : Option SubFamily :=
  let cls := instanceType.toList.takeWhile (· ≠ '.')
  match instanceType.toList.dropWhile (· ≠ '.') with
  | _ :: size =>
    if cls ≠ [] ∧ size ≠ [] then some ⟨String.ofList (baseOf cls), String.ofList size⟩
    else none
  | [] => none

end SubFamily

end WorkerGroup
