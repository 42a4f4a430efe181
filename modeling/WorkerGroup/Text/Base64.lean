/-
Base64 with the standard alphabet, and the texts it stands for.

Three octets become four characters of six bits each; one or two octets left over
become two or three characters and padding. Reading is strict: padding is required,
and the bits that a padded group does not use must be zero, so each list of octets has
exactly one written form.

Octets are natural numbers below 256. A text is carried as the octets of its UTF-8
form, and octets that are no UTF-8 stand for no text.
-/
set_option autoImplicit false

namespace WorkerGroup.Text.Base64

/-! ## The alphabet -/

/-- The character of a six-bit value. -/
def symbol (v : Nat) : Char :=
  if v < 26 then Char.ofNat (65 + v)
  else if v < 52 then Char.ofNat (97 + (v - 26))
  else if v < 62 then Char.ofNat (48 + (v - 52))
  else if v = 62 then '+'
  else '/'

/-- The six-bit value of a character of the alphabet. -/
def symbolValue? (c : Char) : Option Nat :=
  let n := c.toNat
  if 65 ≤ n ∧ n ≤ 90 then some (n - 65)
  else if 97 ≤ n ∧ n ≤ 122 then some (n - 97 + 26)
  else if 48 ≤ n ∧ n ≤ 57 then some (n - 48 + 52)
  else if c = '+' then some 62
  else if c = '/' then some 63
  else none

/-! ## Octets -/

/-- The base64 text of a list of octets. -/
def encode : List Nat → List Char
  | [] => []
  | [a] => [symbol (a / 4), symbol (a % 4 * 16), '=', '=']
  | [a, b] => [symbol (a / 4), symbol (a % 4 * 16 + b / 16), symbol (b % 16 * 4), '=']
  | a :: b :: c :: rest =>
    symbol (a / 4) :: symbol (a % 4 * 16 + b / 16) :: symbol (b % 16 * 4 + c / 64) ::
      symbol (c % 64) :: encode rest

/-- The octets of a base64 text. Padding stands only in the last group, and the unused
bits of a padded group are zero. -/
def decode? : List Char → Option (List Nat)
  | [] => some []
  | p :: q :: r :: s :: rest => do
    let v ← symbolValue? p
    let w ← symbolValue? q
    if s = '=' ∧ rest = [] then
      if r = '=' then
        if w % 16 = 0 then some [v * 4 + w / 16] else none
      else do
        let x ← symbolValue? r
        if x % 4 = 0 then some [v * 4 + w / 16, w % 16 * 16 + x / 4] else none
    else do
      let x ← symbolValue? r
      let y ← symbolValue? s
      let octets ← decode? rest
      some ((v * 4 + w / 16) :: (w % 16 * 16 + x / 4) :: (x % 4 * 64 + y) :: octets)
  | _ => none

/-! ## Texts -/

/-- The octets of a text's UTF-8 form. -/
def octetsOf (s : String) : List Nat :=
  s.toByteArray.data.toList.map UInt8.toNat

/-- The text whose UTF-8 form some octets are. -/
def textOf? (octets : List Nat) : Option String :=
  String.fromUTF8? ⟨(octets.map UInt8.ofNat).toArray⟩

/-- The base64 text of a text. -/
def encodeText (s : String) : String :=
  String.ofList (encode (octetsOf s))

/-- The text a base64 text stands for. -/
def decodeText? (s : String) : Option String :=
  (decode? s.toList).bind textOf?

end WorkerGroup.Text.Base64
