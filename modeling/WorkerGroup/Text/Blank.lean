/-
Blanks: the characters that trimming removes.

A value an operator typed into an annotation or an environment variable may carry
blanks around it, and "blank" here means the Unicode property White_Space, all
twenty-five characters of it. The property is wider than the characters a parser of
the surrounding format would skip, so it is a table of its own.
-/
set_option autoImplicit false

namespace WorkerGroup.Text

/-- Whether a character has the Unicode property White_Space. -/
def isBlank (c : Char) : Bool :=
  let n := c.toNat
  (0x09 ≤ n && n ≤ 0x0D) || n == 0x20 || n == 0x85 || n == 0xA0 || n == 0x1680 ||
    (0x2000 ≤ n && n ≤ 0x200A) || n == 0x2028 || n == 0x2029 || n == 0x202F ||
    n == 0x205F || n == 0x3000

/-- The text without the blanks it starts with. -/
def trimStart (cs : List Char) : List Char :=
  cs.dropWhile isBlank

/-- The text without the blanks it ends with. -/
def trimEnd (cs : List Char) : List Char :=
  (cs.reverse.dropWhile isBlank).reverse

/-- The text without the blanks around it. -/
def trim (s : String) : String :=
  String.ofList (trimEnd (trimStart s.toList))

end WorkerGroup.Text
