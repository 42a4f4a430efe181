/-
The schema's view of JSON.

JSON tells its types apart in the text, so every view is strict: a text is a string, an
integer is a number written as one, and only null is absent. A record is an object, or
an array that gives the fields by place; a name of an enumeration is a string, or the
only key of an object over null.
-/
import WorkerGroup.Json
import WorkerGroup.Schema.Dialect

set_option autoImplicit false

namespace WorkerGroup.Schema

/-- JSON as a schema sees it. -/
def json : Dialect Json where
  text?
    | .str s => some s
    | _ => none
  integer?
    | .int n => some n
    | _ => none
  flag?
    | .bool b => some b
    | _ => none
  isPresent?
    | .null => some false
    | _ => some true
  choice?
    | .str s => some s
    | .obj [(name, .null)] => some name
    | _ => none
  integerOrText?
    | .int n => some (.inl n)
    | .str s => some (.inr s)
    | _ => none
  fields?
    | .obj members => some (.named members)
    | .arr items => some (.positional items)
    | _ => none
  entries?
    | .obj members => some members
    | _ => none
  items?
    | .arr items => some items
    | _ => none

end WorkerGroup.Schema
