/-
Quoted text: how an arbitrary text is shown inside a message.

The text stands between double quotes. A quote and a backslash are escaped, the four
common controls have short escapes, and every other character a reader could not see
is written by its code point. What is left stands as it is, so a message quotes
readable text in any script without noise.
-/
import WorkerGroup.Text.Printable

set_option autoImplicit false

namespace WorkerGroup.Text

/-- The lower-case hexadecimal digits of a number, without leading zeros. -/
def hexDigits (n : Nat) : List Char :=
  Nat.toDigits 16 n

/-- A character by its code point. -/
def codePointEscape (c : Char) : List Char :=
  ['\\', 'u', '\x7b'] ++ hexDigits c.toNat ++ ['\x7d']

/-- A character as it stands inside a quoted text. -/
def quotedChar (c : Char) : List Char :=
  if c = '"' then ['\\', '"']
  else if c = '\\' then ['\\', '\\']
  else if c = '\n' then ['\\', 'n']
  else if c = '\r' then ['\\', 'r']
  else if c = '\t' then ['\\', 't']
  else if c.toNat = 0 then ['\\', '0']
  else if 0x20 ≤ c.toNat ∧ c.toNat < 0x7F then [c]
  else if c.toNat < 0x20 ∨ isEscaped c then codePointEscape c
  else [c]

/-- The text between double quotes, with everything unreadable escaped. -/
def quoted (s : String) : String :=
  String.ofList ('"' :: s.toList.flatMap quotedChar ++ ['"'])

end WorkerGroup.Text
