/-
JSON as text, compact or indented.

Both forms write members in order, escape a quote, a backslash and the controls, and
leave every other character as it is. The compact form has no blanks at all; the
indented form puts each item on a line of its own, two spaces deeper than its
container, and an empty container on one line.
-/
import WorkerGroup.Json
import WorkerGroup.Text.Decimal
import WorkerGroup.Text.Hexadecimal

set_option autoImplicit false

namespace WorkerGroup.Json

open WorkerGroup.Text

/-! ## Strings -/

/-- A character as it stands inside a string. -/
def escapedChar (c : Char) : List Char :=
  if c = '"' then ['\\', '"']
  else if c = '\\' then ['\\', '\\']
  else if c = '\n' then ['\\', 'n']
  else if c = '\r' then ['\\', 'r']
  else if c = '\t' then ['\\', 't']
  else if c.toNat = 0x08 then ['\\', 'b']
  else if c.toNat = 0x0C then ['\\', 'f']
  else if c.toNat < 0x20 then
    ['\\', 'u', '0', '0', Hexadecimal.digitChar (c.toNat / 16),
      Hexadecimal.digitChar (c.toNat % 16)]
  else [c]

/-- A string between quotes. -/
def quoted (s : String) : List Char :=
  '"' :: (s.toList.flatMap escapedChar ++ ['"'])

/-! ## Compact -/

mutual

/-- The text of a value without blanks. -/
def compact : Json → List Char
  | .null => ['n', 'u', 'l', 'l']
  | .bool true => ['t', 'r', 'u', 'e']
  | .bool false => ['f', 'a', 'l', 's', 'e']
  | .int n => Decimal.integer n
  | .raw text => text.toList
  | .str s => quoted s
  | .arr [] => ['[', ']']
  | .arr (item :: items) => '[' :: (compact item ++ compactItems items)
  | .obj [] => ['\x7b', '\x7d']
  | .obj ((key, value) :: members) =>
    '\x7b' :: (quoted key ++ ':' :: (compact value ++ compactMembers members))

/-- The items after the first, and the bracket that ends them. -/
def compactItems : List Json → List Char
  | [] => [']']
  | item :: items => ',' :: (compact item ++ compactItems items)

/-- The members after the first, and the brace that ends them. -/
def compactMembers : List (String × Json) → List Char
  | [] => ['\x7d']
  | (key, value) :: members =>
    ',' :: (quoted key ++ ':' :: (compact value ++ compactMembers members))

end

/-! ## Indented -/

/-- A line break and the blanks of a depth. -/
def lineBreak (depth : Nat) : List Char :=
  '\n' :: List.replicate (2 * depth) ' '

mutual

/-- The text of a value that starts at a depth, over several lines. -/
def indentedAt (depth : Nat) : Json → List Char
  | .arr [] => ['[', ']']
  | .arr (item :: items) =>
    '[' :: (lineBreak (depth + 1) ++ indentedAt (depth + 1) item ++
      indentedItems depth items)
  | .obj [] => ['\x7b', '\x7d']
  | .obj ((key, value) :: members) =>
    '\x7b' :: (lineBreak (depth + 1) ++ quoted key ++ ':' :: ' ' ::
      (indentedAt (depth + 1) value ++ indentedMembers depth members))
  | .null => compact .null
  | .bool b => compact (.bool b)
  | .int n => compact (.int n)
  | .raw text => compact (.raw text)
  | .str s => compact (.str s)

/-- The items after the first of an array at a depth, and the bracket that ends them. -/
def indentedItems (depth : Nat) : List Json → List Char
  | [] => lineBreak depth ++ [']']
  | item :: items =>
    ',' :: (lineBreak (depth + 1) ++ indentedAt (depth + 1) item ++
      indentedItems depth items)

/-- The members after the first of an object at a depth, and the brace that ends them. -/
def indentedMembers (depth : Nat) : List (String × Json) → List Char
  | [] => lineBreak depth ++ ['\x7d']
  | (key, value) :: members =>
    ',' :: (lineBreak (depth + 1) ++ quoted key ++ ':' :: ' ' ::
      (indentedAt (depth + 1) value ++ indentedMembers depth members))

end

/-- The text of a value without blanks. -/
def compactText (v : Json) : String :=
  String.ofList (compact v)

/-- The text of a value over several lines. -/
def indentedText (v : Json) : String :=
  String.ofList (indentedAt 0 v)

end WorkerGroup.Json
