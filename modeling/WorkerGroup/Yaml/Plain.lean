/-
What a plain scalar is when something other than a text is expected.

Integers may have a sign and may be written in hexadecimal, octal or binary with a mark
in front; digits with a zero in front are a text, and so is what does not fit 128 bits.
The names of truth values and of nothing come in three spellings each. Where either an
integer or a text is expected, a plain scalar that is anything else, such as a number
with a fraction, is neither.
-/
import WorkerGroup.Text.Decimal
import WorkerGroup.Text.Hexadecimal

set_option autoImplicit false

namespace WorkerGroup.Yaml.Plain

open WorkerGroup.Text

/-! ## Nothing and truth values -/

/-- Whether a plain scalar is a name of nothing. -/
def namesNothing (s : String) : Bool :=
  ["~", "null", "Null", "NULL"].contains s

/-- Whether a plain scalar is nothing: empty, or one of the names of nothing. -/
def isNothing (s : String) : Bool :=
  s = "" || namesNothing s

/-- The truth value a plain scalar names. -/
def flag? (s : String) : Option Bool :=
  if ["true", "True", "TRUE"].contains s then some true
  else if ["false", "False", "FALSE"].contains s then some false
  else none

/-! ## Integers -/

/-- The value of one or more digits in a radix up to sixteen. -/
def digits? (radix : Nat) (cs : List Char) : Option Nat :=
  if cs.isEmpty then none
  else cs.foldlM (fun n c =>
    (Hexadecimal.digitValue? c).bind fun d => if d < radix then some (n * radix + d) else none) 0

/-- The value of digits behind the mark of a radix. -/
def marked? : List Char → Option Nat
  | '0' :: 'x' :: rest => digits? 16 rest
  | '0' :: 'o' :: rest => digits? 8 rest
  | '0' :: 'b' :: rest => digits? 2 rest
  | _ => none

/-- Whether a text is digits that start with a zero and go on. -/
def hasLeadingZero (cs : List Char) : Bool :=
  match cs with
  | '0' :: d :: rest => (d :: rest).all Decimal.isDigit
  | _ => false

/-- The value of an integer without its sign. -/
def magnitude? (cs : List Char) : Option Nat :=
  match marked? cs with
  | some n => some n
  | none => if hasLeadingZero cs then none else digits? 10 cs

/-- The number of values a word of 128 bits has. -/
def wordSize : Nat :=
  Nat.pow 2 128

/-- The integer a plain scalar is: one that fits a signed word if it has a minus sign,
and an unsigned word if it has none. -/
def integer? (s : String) : Option Int :=
  match s.toList with
  | '-' :: rest => (magnitude? rest).bind fun n =>
    if 2 * n ≤ wordSize then some (-(n : Int)) else none
  | '+' :: rest => (magnitude? rest).bind fun n => if n < wordSize then some (n : Int) else none
  | cs => (magnitude? cs).bind fun n => if n < wordSize then some (n : Int) else none

/-! ## Other numbers -/

/-- An exponent: a sign that may be missing and digits. -/
def exponent? (cs : List Char) : Option Int :=
  match cs with
  | '-' :: rest => (digits? 10 rest).map fun n => -(n : Int)
  | '+' :: rest => (digits? 10 rest).map fun n => (n : Int)
  | _ => (digits? 10 cs).map fun n => (n : Int)

/-- The digits of a decimal number without sign, read as one integer without zeros in
front, and the power of ten it is to be taken by. -/
def decimal? (cs : List Char) : Option (List Char × Int) := do
  let whole := cs.takeWhile Decimal.isDigit
  let cs := cs.dropWhile Decimal.isDigit
  let (fraction, cs) := match cs with
    | '.' :: rest => (rest.takeWhile Decimal.isDigit, rest.dropWhile Decimal.isDigit)
    | _ => ([], cs)
  let exponent ← match cs with
    | [] => some 0
    | c :: rest => if c = 'e' ∨ c = 'E' then exponent? rest else none
  if whole.isEmpty ∧ fraction.isEmpty then none
  else some ((whole ++ fraction).dropWhile (· == '0'), exponent - fraction.length)

/-- The least number that rounds to infinity as a double: half a unit past the largest. -/
def doubleLimit : Nat :=
  Nat.pow 2 1024 - Nat.pow 2 970

/-- Whether a number is within the range of a double: it does not round to infinity. The
limit has 309 digits, so only a number of as many before its point has to be compared. -/
def isFinite (digits : List Char) (exponent : Int) : Bool :=
  let places := digits.length + exponent
  if digits.isEmpty ∨ places < 309 then true
  else if 309 < places then false
  else
    Decimal.value digits * Nat.pow 10 exponent.toNat <
      doubleLimit * Nat.pow 10 (-exponent).toNat

/-- Whether a plain scalar is a number that need not be an integer. -/
def isReal (s : String) : Bool :=
  let cs := s.toList
  let unsigned := match cs with
    | '+' :: rest => rest
    | '-' :: rest => rest
    | _ => cs
  if [".inf", ".Inf", ".INF"].contains (String.ofList unsigned) then true
  else if [".nan", ".NaN", ".NAN"].contains s then true
  else if hasLeadingZero unsigned then false
  else match decimal? unsigned with
    | some (digits, exponent) => isFinite digits exponent
    | none => false

/-- What a plain scalar is where an integer or a text is expected. -/
def integerOrText? (s : String) : Option (Int ⊕ String) :=
  if isNothing s ∨ (flag? s).isSome then none
  else match integer? s with
    | some n => some (.inl n)
    | none => if isReal s then none else some (.inr s)

end WorkerGroup.Yaml.Plain
