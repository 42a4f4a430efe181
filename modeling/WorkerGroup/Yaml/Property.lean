/-
The properties of YAML nodes as they are written: anchors and tags, and the names of
aliases.

A name ends where something follows that cannot belong to it, and not every character
may follow. A tag is a handle and a suffix, a suffix alone behind the primary handle, or
a full name in angles. Suffixes and full names are spelled in the characters of an
address, and any other character is given by the octets it is encoded in.
-/
import WorkerGroup.Text.Hexadecimal
import WorkerGroup.Yaml.Chars
import WorkerGroup.Yaml.Node

set_option autoImplicit false

namespace WorkerGroup.Yaml

open WorkerGroup.Text

/-! ## Names -/

/-- What may stand right behind the name of an anchor, next to blanks. -/
def endsName (c : Char) : Bool :=
  ['?', ':', ',', ']', '\x7d', '%', '@', '\x60'].contains c

/-- The name of an anchor or an alias after its mark, and what follows it. -/
def name? (cs : List Char) : Option (String × List Char) :=
  let name := cs.takeWhile isNameChar
  let rest := cs.dropWhile isNameChar
  if !name.isEmpty && (atBlank rest || rest.head?.any endsName) then
    some (String.ofList name, rest)
  else none

/-! ## Addresses -/

/-- Whether a character stands for itself in an address. In full names and in directives
commas and brackets do too. -/
def isAddressChar (full : Bool) (c : Char) : Bool :=
  isNameChar c ||
    [';', '/', '?', ':', '@', '&', '=', '+', '$', '.', '!', '~', '*', '\'', '(', ')'].contains c ||
    (full && [',', '[', ']'].contains c)

/-- The octets of an address and what follows it. -/
def octets? (full : Bool) : List Char → Option (List Nat × List Char)
  | '%' :: a :: b :: rest =>
    match Hexadecimal.value? [a, b] with
    | some n => (octets? full rest).map fun (ns, after) => (n :: ns, after)
    | none => none
  | c :: rest =>
    if c = '%' then none
    else if isAddressChar full c then
      (octets? full rest).map fun (ns, after) => (c.toNat :: ns, after)
    else some ([], c :: rest)
  | [] => some ([], [])

/-- The payload of an octet that continues a character. -/
def continuation? (n : Nat) : Option Nat :=
  if 0x80 ≤ n ∧ n < 0xC0 then some (n - 0x80) else none

/-- The characters of octets. Each character's first octet says how many there are; a
code point beyond the last one is replaced. -/
def characters? : List Nat → Option (List Char)
  | [] => some []
  | a :: rest =>
    if a < 0x80 then (characters? rest).map (Char.ofNat a :: ·)
    else if a < 0xC0 then none
    else
      match rest with
      | b :: rest =>
        if a < 0xE0 then do
          let b ← continuation? b
          (characters? rest).map (character ((a - 0xC0) * 0x40 + b) :: ·)
        else
          match rest with
          | c :: rest =>
            if a < 0xF0 then do
              let b ← continuation? b
              let c ← continuation? c
              (characters? rest).map (character ((a - 0xE0) * 0x1000 + b * 0x40 + c) :: ·)
            else if 0xF8 ≤ a then none
            else
              match rest with
              | d :: rest => do
                let b ← continuation? b
                let c ← continuation? c
                let d ← continuation? d
                (characters? rest).map
                  (character ((a - 0xF0) * 0x40000 + b * 0x1000 + c * 0x40 + d) :: ·)
              | [] => none
          | [] => none
      | [] => none
where
  /-- The character of a code point. -/
  character (n : Nat) : Char :=
    if n < 0xD800 ∨ (0xE000 ≤ n ∧ n < 0x110000) then Char.ofNat n else '\uFFFD'

/-- An address and what follows it. -/
def address? (full : Bool) (cs : List Char) : Option (List Char × List Char) := do
  let (octets, after) ← octets? full cs
  some (← characters? octets, after)

/-! ## Tags -/

/-- The handle at the start of a text: an exclamation mark, and if one more ends it, the
name between the two. -/
def handle? : List Char → Option (List Char × List Char)
  | '!' :: cs =>
    match cs.dropWhile isNameChar with
    | '!' :: rest => some ('!' :: (cs.takeWhile isNameChar ++ ['!']), rest)
    | _ => some (['!'], cs)
  | _ => none

/-- A tag after its first exclamation mark, and what follows it. -/
def tagName? (cs : List Char) : Option (TagName × List Char) :=
  match cs with
  | '<' :: rest => do
    let (suffix, after) ← address? true rest
    match after with
    | '>' :: rest => if suffix.isEmpty then none else some (⟨"", String.ofList suffix⟩, rest)
    | _ => none
  | _ => do
    let (handle, rest) ← handle? ('!' :: cs)
    let (suffix, after) ← address? false rest
    if suffix.isEmpty then
      if handle = ['!'] then some (⟨"", "!"⟩, after) else none
    else some (⟨String.ofList handle, String.ofList suffix⟩, after)

/-- Whether a text may stand right behind a tag. -/
def endsTag (flow : Bool) (cs : List Char) : Bool :=
  atBlank cs || (flow && cs.head? == some ',')

/-! ## Properties -/

/-- The property a text starts with, inside or outside brackets, and what follows it. -/
def property? (flow : Bool) : List Char → Option (Properties × List Char)
  | '&' :: rest => (name? rest).map fun (name, after) => ({ anchor := some name }, after)
  | '!' :: rest => (tagName? rest).bind fun (tag, after) =>
    if endsTag flow after then some ({ tag := some tag }, after) else none
  | _ => none

/-- The properties a text starts with and what follows the gaps behind them; no more than
two can belong to one node. -/
def properties? (flow : Bool) (skip : List Char → Option (List Char)) (cs : List Char) :
    Option (Properties × List Char) :=
  if !atProperty cs then some ({}, cs)
  else do
    let (first, after) ← property? flow cs
    let after ← skip after
    if !atProperty after then some (first, after)
    else
      let (second, after) ← property? flow after
      some (← first.and? second, ← skip after)

end WorkerGroup.Yaml
