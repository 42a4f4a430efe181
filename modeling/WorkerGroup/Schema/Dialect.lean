/-
Dialects: how a schema reads the values of a data format.

A resource can be written as JSON or as YAML, and a record says the same about both:
which fields it has, which may be missing, and what each one holds. What differs is how
a value of the format is seen as a text, an integer, a record and so on. A dialect is
that view, and every record is read through one, so the schema is written once.

A field that is missing and a field that holds nothing are different things. A field
with a default may be missing but, when it is there, must hold a value of its type; an
optional field may be missing or empty. Fields a record does not know are passed over,
but a field it knows must not come twice. Open records are more lenient about that: a
field of theirs may come any number of times.
-/
set_option autoImplicit false

namespace WorkerGroup.Schema

/-! ## The view of a value -/

/-- What a format has written where a record is expected. -/
inductive Fields (α : Type) where
  /-- Values under their names, in the order they were written. -/
  | named (fields : List (String × α))
  /-- Values alone, in the order the record declares its fields. -/
  | positional (items : List α)

/-- How the values of a data format are seen by a schema. -/
structure Dialect (α : Type) where
  /-- The text a value is. -/
  text? : α → Option String
  /-- The integer a value is. -/
  integer? : α → Option Int
  /-- The truth value a value is. -/
  flag? : α → Option Bool
  /-- Whether a value stands for something where a field is optional, and not for none. A
  value may say that it is none and be something; then there is no answer. -/
  isPresent? : α → Option Bool
  /-- The name a value of an enumeration is given by. -/
  choice? : α → Option String
  /-- A value that may be an integer or a text, as whichever it is. -/
  integerOrText? : α → Option (Int ⊕ String)
  /-- The fields of a record. -/
  fields? : α → Option (Fields α)
  /-- The entries of a map from texts. -/
  entries? : α → Option (List (String × α))
  /-- The items of a list. -/
  items? : α → Option (List α)

/-! ## Records -/

/-- The fields of a record that is being read: the value each known name has, if any. -/
abbrev Record (α : Type) := String → Option α

/-- The fields of an open record that is being read: the values each name has, in the order
they were written. -/
abbrev OpenRecord (α : Type) := String → List α

/-- Whether one of the known names stands more than once. -/
def repeats {α : Type} (names : List String) (fields : List (String × α)) : Bool :=
  names.any fun name => 1 < (fields.filter fun f => f.1 == name).length

/-- The value under a name: by the name, or by the place the record declares it at. -/
def Fields.get? {α : Type} (names : List String) : Fields α → Record α
  | .named fields, name => fields.lookup name
  | .positional items, name => (names.idxOf? name).bind (items[·]?)

namespace Dialect

variable {α β : Type} (D : Dialect α)

/-- The record a value is, for a schema whose fields may all be missing from the end on
when they are not named. -/
def record? (names : List String) (v : α) : Option (Record α) :=
  match D.fields? v with
  | none => none
  | some (.named fields) =>
    if repeats names fields then none else some ((Fields.named fields).get? names)
  | some (.positional items) =>
    if names.length < items.length then none
    else some ((Fields.positional items).get? names)

/-- The record a value is, for a schema that needs all its fields when they are not
named. -/
def fullRecord? (names : List String) (v : α) : Option (Record α) :=
  match D.fields? v with
  | some (.positional items) =>
    if items.length = names.length then some ((Fields.positional items).get? names) else none
  | _ => D.record? names v

/-- The record a value is, for a schema that only knows named fields and in which several
values may stand under one name. -/
def openRecord? (v : α) : Option (OpenRecord α) :=
  match D.fields? v with
  | some (.named fields) =>
    some fun name => (fields.filter fun f => f.1 == name).map (·.2)
  | _ => none

end Dialect

/-! ## Fields -/

section

variable {α β : Type}

/-- What is optional: none if a value stands for that, and read if not. -/
def Dialect.optional? (D : Dialect α) (read : α → Option β) (v : α) : Option (Option β) :=
  (D.isPresent? v).bind fun present => if present then (read v).map some else some none

/-- A field that must be there. -/
def Record.required? (r : Record α) (name : String) (read : α → Option β) : Option β :=
  (r name).bind read

/-- A field that has a default when it is missing. -/
def Record.default? (r : Record α) (name : String) (read : α → Option β) (fallback : β) :
    Option β :=
  match r name with
  | none => some fallback
  | some v => read v

/-- A field that may be missing or empty. -/
def Record.optional? (D : Dialect α) (r : Record α) (name : String) (read : α → Option β) :
    Option (Option β) :=
  match r name with
  | none => some none
  | some v => D.optional? read v

/-- A field of an open record, which may be missing or empty. All of its values have to be
what the field holds, and the last one stands. -/
def OpenRecord.optional? (D : Dialect α) (r : OpenRecord α) (name : String)
    (read : α → Option β) : Option (Option β) :=
  ((r name).mapM (D.optional? read)).map fun values => values.getLast?.join

end

/-! ## Values -/

namespace Dialect

variable {α β : Type} (D : Dialect α)

/-- The items of a list, each read. -/
def list? (read : α → Option β) (v : α) : Option (List β) :=
  (D.items? v).bind fun items => items.mapM read

/-- The entries of a map, each read, in the order they were written. -/
def map? (read : α → Option β) (v : α) : Option (List (String × β)) :=
  (D.entries? v).bind fun entries => entries.mapM fun e => (read e.2).map fun b => (e.1, b)

/-- A signed 64-bit integer. -/
def int64? (v : α) : Option Int64 :=
  (D.integer? v).bind fun n =>
    if -9223372036854775808 ≤ n ∧ n ≤ 9223372036854775807 then some (Int64.ofInt n) else none

/-- A signed 32-bit integer. -/
def int32? (v : α) : Option Int32 :=
  (D.integer? v).bind fun n =>
    if -2147483648 ≤ n ∧ n ≤ 2147483647 then some (Int32.ofInt n) else none

/-- An unsigned 64-bit integer. -/
def uint64? (v : α) : Option UInt64 :=
  (D.integer? v).bind fun n =>
    if 0 ≤ n ∧ n ≤ 18446744073709551615 then some (UInt64.ofNat n.toNat) else none

/-- An unsigned 32-bit integer. -/
def uint32? (v : α) : Option UInt32 :=
  (D.integer? v).bind fun n =>
    if 0 ≤ n ∧ n ≤ 4294967295 then some (UInt32.ofNat n.toNat) else none

end Dialect

end WorkerGroup.Schema
