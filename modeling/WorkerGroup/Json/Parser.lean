/-
JSON from text.

The reader accepts exactly the JSON grammar: no trailing commas, no comments, no bare
controls inside strings, and no numbers with leading zeros. An escape that names half of
a surrogate pair is part of the grammar, but the string it stands in is no text. Each
reader of a part returns what follows the part. Values nest, so their readers take fuel;
a text can hold no more values than characters, and that is the fuel the outermost
reader gives.
-/
import WorkerGroup.Json
import WorkerGroup.Text.Decimal
import WorkerGroup.Text.Hexadecimal

set_option autoImplicit false

namespace WorkerGroup.Json

open WorkerGroup.Text.Decimal (isDigit value)
open WorkerGroup.Text.Hexadecimal (value?)

/-! ## Blanks and literals -/

/-- The blanks between the parts of a value. -/
def isSpace (c : Char) : Bool :=
  c == ' ' || c == '\t' || c == '\n' || c == '\r'

/-- The text without the blanks it starts with. -/
def skipSpace (cs : List Char) : List Char :=
  cs.dropWhile isSpace

/-- What follows a literal text at the start. -/
def literal? : List Char → List Char → Option (List Char)
  | [], cs => some cs
  | l :: ls, c :: cs => if l = c then literal? ls cs else none
  | _ :: _, [] => none

/-! ## Strings -/

/-- The character a single letter stands for after a backslash. -/
def simpleEscape? (c : Char) : Option Char :=
  if c = '"' ∨ c = '\\' ∨ c = '/' then some c
  else if c = 'b' then some '\x08'
  else if c = 'f' then some '\x0c'
  else if c = 'n' then some '\n'
  else if c = 'r' then some '\r'
  else if c = 't' then some '\t'
  else none

/-- The character of a code unit, or of a unit and the low half of a pair after it. -/
def surrogatePair? (high low : Nat) : Option Char :=
  if 0xD800 ≤ high ∧ high < 0xDC00 ∧ 0xDC00 ≤ low ∧ low < 0xE000 then
    some (Char.ofNat (0x10000 + (high - 0xD800) * 0x400 + (low - 0xDC00)))
  else none

/-- Whether a code unit is half of a surrogate pair. -/
def isSurrogate (unit : Nat) : Bool :=
  0xD800 ≤ unit && unit < 0xE000

/-- The characters of a string that is a text up to its closing quote, and what follows
the quote. -/
def string? : List Char → Option (List Char × List Char)
  | [] => none
  | '"' :: rest => some ([], rest)
  | '\\' :: 'u' :: a :: b :: c :: d :: rest =>
    match value? [a, b, c, d] with
    | none => none
    | some unit =>
      if isSurrogate unit then
        match rest with
        | '\\' :: 'u' :: e :: f :: g :: h :: rest =>
          match (value? [e, f, g, h]).bind (surrogatePair? unit) with
          | none => none
          | some ch => (string? rest).map fun (s, after) => (ch :: s, after)
        | _ => none
      else (string? rest).map fun (s, after) => (Char.ofNat unit :: s, after)
  | '\\' :: c :: rest =>
    match simpleEscape? c with
    | none => none
    | some ch => (string? rest).map fun (s, after) => (ch :: s, after)
  | '\\' :: [] => none
  | c :: rest =>
    if c.toNat < 0x20 then none
    else (string? rest).map fun (s, after) => (c :: s, after)

/-- What follows the closing quote of a string, be it a text or not. -/
def afterString? : List Char → Option (List Char)
  | [] => none
  | '"' :: rest => some rest
  | '\\' :: 'u' :: a :: b :: c :: d :: rest =>
    if (value? [a, b, c, d]).isSome then afterString? rest else none
  | '\\' :: c :: rest => if (simpleEscape? c).isSome then afterString? rest else none
  | '\\' :: [] => none
  | c :: rest => if c.toNat < 0x20 then none else afterString? rest

/-- The text a string is, if it is one, and what follows the string. -/
def key? (cs : List Char) : Option (Option String × List Char) :=
  match string? cs with
  | some (s, after) => some (some (String.ofList s), after)
  | none => (afterString? cs).map fun after => (none, after)

/-- A value as it was written, from where it starts to what follows it. -/
def written (start after : List Char) : Json :=
  .raw (String.ofList (start.take (start.length - after.length)))

/-- The string a text starts with, which is between quotes, and what follows it. -/
def stringValue? (cs : List Char) : Option (Json × List Char) :=
  (key? (cs.drop 1)).map fun (s, after) => (s.elim (written cs after) .str, after)

/-- The object of some members, which was written from one text to another. -/
def objectValue (start after : List Char) (members : List (Option String × Json)) : Json :=
  match members.mapM fun (key, value) => key.map (·, value) with
  | some members => .obj members
  | none => written start after

/-! ## Numbers -/

/-- The digits of an integer part: a zero alone, or digits that start with none. -/
def integerPart? (cs : List Char) : Option (List Char × List Char) :=
  match cs with
  | '0' :: rest => some (['0'], rest)
  | _ =>
    let ds := cs.takeWhile isDigit
    if ds = [] then none else some (ds, cs.dropWhile isDigit)

/-- A fraction part, which may be missing. -/
def fractionPart? : List Char → Option (List Char × List Char)
  | '.' :: rest =>
    let ds := rest.takeWhile isDigit
    if ds = [] then none else some ('.' :: ds, rest.dropWhile isDigit)
  | cs => some ([], cs)

/-- An exponent part, which may be missing. -/
def exponentPart? : List Char → Option (List Char × List Char)
  | c :: rest =>
    if c = 'e' ∨ c = 'E' then
      let (sign, rest) := match rest with
        | '+' :: r => (['+'], r)
        | '-' :: r => (['-'], r)
        | r => ([], r)
      let ds := rest.takeWhile isDigit
      if ds = [] then none else some (c :: sign ++ ds, rest.dropWhile isDigit)
    else some ([], c :: rest)
  | [] => some ([], [])

/-- A number. Without fraction and exponent it is an integer, save for a negative
zero. -/
def number? (cs : List Char) : Option (Json × List Char) := do
  let (negative, cs) := match cs with
    | '-' :: rest => (true, rest)
    | _ => (false, cs)
  let (whole, cs) ← integerPart? cs
  let (fraction, cs) ← fractionPart? cs
  let (exponent, cs) ← exponentPart? cs
  let n : Int := value whole
  if fraction = [] ∧ exponent = [] ∧ ¬(negative ∧ n = 0) then
    some (.int (if negative then -n else n), cs)
  else
    let sign := if negative then ['-'] else []
    some (.raw (String.ofList (sign ++ whole ++ fraction ++ exponent)), cs)

/-! ## Values -/

mutual

/-- A value at the start of a text that starts with no blank. -/
def element? : Nat → List Char → Option (Json × List Char)
  | 0, _ => none
  | fuel + 1, cs =>
    match cs with
    | [] => none
    | '\x7b' :: rest =>
      match skipSpace rest with
      | '\x7d' :: rest => some (.obj [], rest)
      | rest => (members? fuel rest).map fun (ms, after) => (objectValue cs after ms, after)
    | '[' :: rest =>
      match skipSpace rest with
      | ']' :: rest => some (.arr [], rest)
      | rest => (items? fuel rest).map fun (vs, after) => (.arr vs, after)
    | '"' :: _ => stringValue? cs
    | 'n' :: _ => (literal? ['n', 'u', 'l', 'l'] cs).map fun r => (.null, r)
    | 't' :: _ => (literal? ['t', 'r', 'u', 'e'] cs).map fun r => (.bool true, r)
    | 'f' :: _ => (literal? ['f', 'a', 'l', 's', 'e'] cs).map fun r => (.bool false, r)
    | _ => number? cs

/-- The items of an array up to its closing bracket. -/
def items? : Nat → List Char → Option (List Json × List Char)
  | 0, _ => none
  | fuel + 1, cs => do
    let (v, cs) ← element? fuel cs
    match skipSpace cs with
    | ',' :: rest =>
      let (vs, after) ← items? fuel (skipSpace rest)
      some (v :: vs, after)
    | ']' :: rest => some ([v], rest)
    | _ => none

/-- The members of an object up to its closing brace, each with the text its key is. -/
def members? : Nat → List Char → Option (List (Option String × Json) × List Char)
  | 0, _ => none
  | fuel + 1, cs => do
    match cs with
    | '"' :: rest =>
      let (key, cs) ← key? rest
      match skipSpace cs with
      | ':' :: rest =>
        let (v, cs) ← element? fuel (skipSpace rest)
        match skipSpace cs with
        | ',' :: rest =>
          let (ms, after) ← members? fuel (skipSpace rest)
          some ((key, v) :: ms, after)
        | '\x7d' :: rest => some ([(key, v)], rest)
        | _ => none
      | _ => none
    | _ => none

end

/-- The value a text is, blanks around it allowed. -/
def parse? (s : String) : Option Json := do
  let cs := skipSpace s.toList
  let (v, rest) ← element? (cs.length + 1) cs
  if skipSpace rest = [] then some v else none

end WorkerGroup.Json
