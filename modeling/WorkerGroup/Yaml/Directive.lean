/-
YAML directives: what a document says about itself before it starts.

Each directive takes a line that starts with a percent sign. One names the version of the
format and may come once; others give handles of tags a meaning, each handle one. Two
handles have a meaning without that, which a directive may change.
-/
import WorkerGroup.Text.Decimal
import WorkerGroup.Yaml.Property
import WorkerGroup.Yaml.Scalar

set_option autoImplicit false

namespace WorkerGroup.Yaml

open WorkerGroup.Text

/-- The directives of a document. -/
structure Directives where
  /-- Whether the version is given. -/
  versioned : Bool := false
  /-- The handles that are given a meaning. -/
  handles : List (String × String) := []

namespace Directives

/-- Whether there are no directives. -/
def isEmpty (ds : Directives) : Bool :=
  !ds.versioned && ds.handles.isEmpty

/-- The handles that have a meaning anyway. -/
def defaults : List (String × String) :=
  [("!", "!"), ("!!", "tag:yaml.org,2002:")]

/-- The tag that a tag as written stands for, if its handle has a meaning. -/
def tag? (ds : Directives) (name : TagName) : Option String :=
  if name.handle = "" then some name.suffix
  else ((ds.handles ++ defaults).lookup name.handle).map (· ++ name.suffix)

/-! ## Reading -/

/-- A number of a version: at most nine digits. -/
def number? (cs : List Char) : Option (Nat × List Char) :=
  let digits := cs.takeWhile Decimal.isDigit
  if digits.isEmpty ∨ 9 < digits.length then none
  else some (Decimal.value digits, cs.dropWhile Decimal.isDigit)

/-- The directives after one more that gives the version; it has to be one that is
known. -/
def version? (ds : Directives) (cs : List Char) : Option (Directives × List Char) := do
  let (major, rest) ← number? cs
  match rest with
  | '.' :: rest =>
    let (minor, rest) ← number? rest
    if ds.versioned ∨ major ≠ 1 ∨ (minor ≠ 1 ∧ minor ≠ 2) then none
    else some ({ ds with versioned := true }, rest)
  | _ => none

/-- The directives after one more that gives a handle a meaning. -/
def handle? (ds : Directives) (cs : List Char) : Option (Directives × List Char) := do
  let (handle, rest) ← Yaml.handle? cs
  if !rest.head?.any isGap then none
  else
    let (meaning, rest) ← address? true (rest.dropWhile isGap)
    let handle := String.ofList handle
    if meaning.isEmpty ∨ !atBlank rest ∨ (ds.handles.lookup handle).isSome then none
    else some ({ ds with handles := ds.handles ++ [(handle, String.ofList meaning)] }, rest)

/-- The directives after one more, which stands behind its percent sign, and the text at
the start of the next line. -/
def add? (ds : Directives) (cs : List Char) : Option (Directives × List Char) := do
  let name := cs.takeWhile isNameChar
  let rest := cs.dropWhile isNameChar
  let (ds, rest) ←
    if !atBlank rest then none
    else if name = ['Y', 'A', 'M', 'L'] then ds.version? (rest.dropWhile isGap)
    else if name = ['T', 'A', 'G'] then ds.handle? (rest.dropWhile isGap)
    else none
  some (ds, ← headerEnd? rest)

end Directives

end WorkerGroup.Yaml
