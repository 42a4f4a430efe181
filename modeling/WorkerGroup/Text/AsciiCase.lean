/-
ASCII case: comparing names whose letters may be typed in either case.

Only the letters `A` to `Z` have a second case here. A character outside ASCII equals
itself alone, so a look-alike (a dotted capital I, a long s, a full-width letter)
never matches a name.
-/
set_option autoImplicit false

namespace WorkerGroup.Text

/-- The text with `A` to `Z` in lower case and everything else as it is. -/
def foldCase (s : String) : List Char :=
  s.toList.map Char.toLower

/-- Whether two texts are equal up to the case of ASCII letters. -/
def sameIgnoringCase (a b : String) : Bool :=
  foldCase a == foldCase b

end WorkerGroup.Text
