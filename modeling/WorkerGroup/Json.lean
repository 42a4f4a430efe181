/-
JSON values.

Offerings files, reports and the records of discovered state are all JSON. The type
keeps what a schema can tell apart: an integer is a number written without fraction and
exponent, and the members of an object stay in the order they were written, repeated keys
included. What no schema reads is kept as it was written: numbers that are no integers,
and strings that are no text because they hold half of a surrogate pair. An object is
kept like that too if one of its keys is no text.
-/
set_option autoImplicit false

namespace WorkerGroup

/-- A JSON value. -/
inductive Json where
  | null
  | bool (b : Bool)
  /-- A number written as an integer. -/
  | int (n : Int)
  /-- A value no schema reads, as it was written. -/
  | raw (text : String)
  | str (s : String)
  | arr (items : List Json)
  | obj (members : List (String × Json))
deriving Inhabited

namespace Json

/-- The value, or null for none. -/
def ofOption {α : Type} (encode : α → Json) : Option α → Json
  | none => .null
  | some a => encode a

/-- A list of values. -/
def ofList {α : Type} (encode : α → Json) (items : List α) : Json :=
  .arr (items.map encode)

/-- A member that is left out when there is no value. -/
def member? {α : Type} (key : String) (encode : α → Json) : Option α → List (String × Json)
  | none => []
  | some a => [(key, encode a)]

end Json

end WorkerGroup
