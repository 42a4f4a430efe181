/-
YAML scalars: quoted, plain and block.

Quoted and plain scalars may go over several lines, and what stands between two lines is
folded. The readers below go through the text one character at a time and carry the run
of gaps and breaks they are in, so a run is folded when the next character comes and
dropped when the scalar ends at it. A block scalar is read line by line, and its lines
keep the indentation beyond the block's own.

Each reader returns what the scalar holds and the text after it. A document mark at the
start of a line ends a plain scalar and is a fault inside a quoted one.
-/
import WorkerGroup.Text.Hexadecimal
import WorkerGroup.Yaml.Chars

set_option autoImplicit false

namespace WorkerGroup.Yaml

open WorkerGroup.Text

/-! ## Quoted scalars -/

/-- The character of a code point, if it has one. -/
def codePoint? (n : Nat) : Option Char :=
  if n < 0xD800 ∨ (0xE000 ≤ n ∧ n < 0x110000) then some (Char.ofNat n) else none

/-- The character a single letter stands for after a backslash. -/
def simpleEscape? (c : Char) : Option Char :=
  match c with
  | '0' => some '\x00'
  | 'a' => some '\x07'
  | 'b' => some '\x08'
  | 't' => some '\t'
  | '\t' => some '\t'
  | 'n' => some '\n'
  | 'v' => some '\x0b'
  | 'f' => some '\x0c'
  | 'r' => some '\r'
  | 'e' => some '\x1b'
  | ' ' => some ' '
  | '"' => some '"'
  | '/' => some '/'
  | '\\' => some '\\'
  | 'N' => some '\x85'
  | '_' => some '\xa0'
  | 'L' => some lineSeparator
  | 'P' => some paragraphSeparator
  | _ => none

/-- The character of some hexadecimal digits. -/
def hexEscape? (digits : List Char) : Option Char :=
  (Hexadecimal.value? digits).bind codePoint?

/-- Whether the text after a run is at the start of a line. A run may also begin at a
line start, after a break that was escaped. -/
def afterBreak (escaped : Bool) : List Char → Bool
  | [] => escaped
  | c :: _ => isBreak c

/-- What the run before a character stands for; it is carried backwards. After a break
that was escaped only further breaks count. -/
def runText (escaped : Bool) (run : List Char) : List Char :=
  if escaped then run.reverse.filter isBreak else folded run.reverse

/-- Text in front of what a reader returns. -/
def prepend (cs : List Char) (r : Option (List Char × List Char)) :
    Option (List Char × List Char) :=
  r.map fun (text, after) => (cs ++ text, after)

/-- The rest of a scalar in double quotes, up to and without its closing quote. -/
def doubleQuoted? (escaped : Bool) (run : List Char) :
    List Char → Option (List Char × List Char)
  | [] => none
  | '\\' :: 'x' :: a :: b :: rest =>
    match hexEscape? [a, b] with
    | some ch => prepend (runText escaped run ++ [ch]) (doubleQuoted? false [] rest)
    | none => none
  | '\\' :: 'u' :: a :: b :: c :: d :: rest =>
    match hexEscape? [a, b, c, d] with
    | some ch => prepend (runText escaped run ++ [ch]) (doubleQuoted? false [] rest)
    | none => none
  | '\\' :: 'U' :: a :: b :: c :: d :: e :: f :: g :: h :: rest =>
    match hexEscape? [a, b, c, d, e, f, g, h] with
    | some ch => prepend (runText escaped run ++ [ch]) (doubleQuoted? false [] rest)
    | none => none
  | '\\' :: c :: rest =>
    if isBreak c then prepend (runText escaped run) (doubleQuoted? true [] rest)
    else
      match simpleEscape? c with
      | some ch => prepend (runText escaped run ++ [ch]) (doubleQuoted? false [] rest)
      | none => none
  | c :: rest =>
    if isGap c || isBreak c then doubleQuoted? escaped (c :: run) rest
    else if afterBreak escaped run && atMark (c :: rest) then none
    else if c = '"' then some (runText escaped run, rest)
    else if c = '\\' then none
    else prepend (runText escaped run ++ [c]) (doubleQuoted? false [] rest)

/-- The rest of a scalar in single quotes, up to and without its closing quote. -/
def singleQuoted? (run : List Char) : List Char → Option (List Char × List Char)
  | [] => none
  | '\'' :: '\'' :: rest => prepend (folded run.reverse ++ ['\'']) (singleQuoted? [] rest)
  | c :: rest =>
    if isGap c || isBreak c then singleQuoted? (c :: run) rest
    else if afterBreak false run && atMark (c :: rest) then none
    else if c = '\'' then some (folded run.reverse, rest)
    else prepend (folded run.reverse ++ [c]) (singleQuoted? [] rest)

/-! ## Plain scalars -/

/-- A run that a plain scalar ended at. It has been read as gaps, so the tabs in it are as
good as spaces to what reads the text after the scalar. -/
def spaced (run : List Char) : List Char :=
  run.reverse.map fun c => if c = '\t' then ' ' else c

/-- The rest of a plain scalar. It ends before a colon with a blank after it, before a
comment, at a mark between documents, inside brackets before a bracket or a comma, and
outside of them before a line that starts left of the margin. The run it ends at is not
part of it but of the text after it. -/
def plain? (flow : Bool) (margin : Nat) (run : List Char) (column : Nat) :
    List Char → Option (List Char × List Char)
  | [] => some ([], spaced run)
  | c :: rest =>
    let crossed := run.any isBreak
    if isGap c then
      if c = '\t' ∧ crossed ∧ column < margin then none
      else plain? flow margin (c :: run) (column + 1) rest
    else if isBreak c then plain? flow margin (c :: run) 0 rest
    else if !run.isEmpty &&
        (c == '#' || (afterBreak false run && atMark (c :: rest)) ||
          (!flow && crossed && column < margin)) then
      some ([], spaced run ++ c :: rest)
    else if c = ':' ∧ atBlank rest then some ([], spaced run ++ c :: rest)
    else if flow ∧ c = ':' ∧ rest.head?.any (fun d => isFlowIndicator d || d == '?') then none
    else if flow ∧ isFlowIndicator c then some ([], spaced run ++ c :: rest)
    else prepend (folded run.reverse ++ [c]) (plain? flow margin [] (column + 1) rest)

/-! ## Block scalars -/

/-- What becomes of the breaks at the end of a block scalar. -/
inductive Chomping where
  /-- The last line keeps its break. -/
  | clip
  /-- All breaks go. -/
  | strip
  /-- All breaks stay. -/
  | keep
deriving DecidableEq

/-- The chomping of a header character. -/
def chomping? (c : Char) : Option Chomping :=
  if c = '-' then some .strip else if c = '+' then some .keep else none

/-- The indentation of a header character. -/
def increment? (c : Char) : Option Nat :=
  if '1' ≤ c ∧ c ≤ '9' then some (c.toNat - 48) else none

/-- The chomping and the indentation a header gives, in either order, and what follows. -/
def blockHeader (cs : List Char) : Chomping × Option Nat × List Char :=
  match cs with
  | [] => (.clip, none, [])
  | c :: rest =>
    match chomping? c, increment? c with
    | some chomping, _ =>
      match rest with
      | d :: rest' =>
        match increment? d with
        | some n => (chomping, some n, rest')
        | none => (chomping, none, rest)
      | [] => (chomping, none, [])
    | none, some n =>
      match rest with
      | d :: rest' =>
        match chomping? d with
        | some chomping => (chomping, some n, rest')
        | none => (.clip, some n, rest)
      | [] => (.clip, some n, [])
    | none, none => (.clip, none, cs)

/-- The text after a header's line: gaps, a comment, and the break that ends the line. -/
def headerEnd? (cs : List Char) : Option (List Char) :=
  let cs := cs.dropWhile isGap
  let cs := if cs.head? = some '#' then cs.dropWhile (fun c => !isBreak c) else cs
  match cs with
  | [] => some []
  | c :: rest => if isBreak c then some rest else none

/-- A line of a text: its characters, and the break that ends it if there is one. -/
structure Line where
  chars : List Char
  ending : List Char

/-- The lines of a text; there is none after a break at its end. -/
def linesOf : List Char → List Line
  | [] => []
  | c :: rest =>
    if isBreak c then ⟨[], [c]⟩ :: linesOf rest
    else
      match linesOf rest with
      | line :: lines =>
        { line with chars := c :: line.chars } :: lines
      | [] => [⟨[c], []⟩]

/-- The text of some lines. -/
def unlines (lines : List Line) : List Char :=
  lines.flatMap fun line => line.chars ++ line.ending

/-- How many spaces a line starts with. -/
def Line.spaces (line : Line) : Nat :=
  (line.chars.takeWhile (· == ' ')).length

/-- The indentation of a block whose header gives none: that of its first line that is
not empty, or of a longer empty line before it. A tab may not be part of it. -/
def detectIndent? (least : Nat) : List Line → Option Nat
  | [] => some least
  | line :: lines =>
    let after := line.chars.drop line.spaces
    let least := max least line.spaces
    if after.head? = some '\t' then none
    else if after.isEmpty ∧ !line.ending.isEmpty then detectIndent? least lines
    else some least

/-- The breaks at the end of a block scalar, as its chomping leaves them. -/
def chomped (chomping : Chomping) (last more : List Char) : List Char :=
  match chomping with
  | .strip => []
  | .clip => last
  | .keep => last ++ more

/-- The text of a block scalar's lines and the lines after it. Carried along are the break
of the last line that was not empty, the breaks of the empty lines after it, and whether
it started with a gap: between two lines that do not, a folded scalar has a space in
place of a single break. -/
def blockLines? (literal : Bool) (chomping : Chomping) (indent : Nat)
    (last more : List Char) (gapped : Bool) : List Line → Option (List Char × List Line)
  | [] => some (chomped chomping last more, [])
  | line :: lines =>
    let spaces := min indent line.spaces
    let chars := line.chars.drop spaces
    if spaces < indent ∧ chars.head? = some '\t' then none
    else if chars.isEmpty ∧ !line.ending.isEmpty then
      blockLines? literal chomping indent last (more ++ line.ending) gapped lines
    else if spaces < indent ∨ chars.isEmpty then
      some (chomped chomping last more, line :: lines)
    else
      let starts := chars.head?.any isGap
      let between :=
        if !literal ∧ last = ['\n'] ∧ !gapped ∧ !starts then
          if more.isEmpty then [' '] else more
        else last ++ more
      (blockLines? literal chomping indent line.ending [] starts lines).map
        fun (text, after) => (between ++ chars ++ text, after)

/-- A block scalar after its marker, literal or folded. What follows it starts at the
beginning of a line. -/
def block? (literal : Bool) (margin : Nat) (cs : List Char) :
    Option (List Char × List Char) := do
  let (chomping, increment, rest) := blockHeader cs
  let rest ← headerEnd? rest
  let lines := linesOf rest
  let indent ← match increment with
    | some n => some (margin - 1 + n)
    | none => detectIndent? (max margin 1) lines
  let (text, after) ← blockLines? literal chomping indent [] [] false lines
  some (text, unlines after)

end WorkerGroup.Yaml
