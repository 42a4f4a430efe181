/-
The schema's view of YAML.

A text takes any scalar as it is, plain or not. Integers and truth values have to be
plain, and so does nothing: a quoted `null` is a text of four letters. A plain scalar
without any text is also the record, the map or the list without anything in it, which
is what a key without a value has. Records are mappings, never lists.

A tag is passed over where the schema knows what it wants anyway. Where it does not, the
tag decides: whether an optional field is there, whether a scalar is an integer or a text,
and which name of an enumeration is meant. References are followed everywhere.
-/
import WorkerGroup.Schema.Dialect
import WorkerGroup.Yaml.Graph
import WorkerGroup.Yaml.Plain

set_option autoImplicit false

namespace WorkerGroup.Schema

open WorkerGroup.Yaml

/-! ## Tags -/

/-- The tag of truth values. -/
def flagTag : String := "tag:yaml.org,2002:bool"

/-- The tag of integers. -/
def integerTag : String := "tag:yaml.org,2002:int"

/-- The tag of numbers that need not be integers. -/
def realTag : String := "tag:yaml.org,2002:float"

/-- The tag of nothing. -/
def nothingTag : String := "tag:yaml.org,2002:null"

/-- The name that a tag of the document's own gives. -/
def localName? (tag : String) : Option String :=
  match tag.toList with
  | '!' :: name => some (String.ofList name)
  | _ => none

/-! ## Scalars -/

/-- The text of a scalar. -/
def scalarText? : Vertex → Option String
  | .scalar _ _ text => some text
  | _ => none

/-- The text of a scalar that may be of a kind with a tag: a plain one, or a literal block
with that tag. -/
def kindText? (tag : String) : Vertex → Option String
  | .scalar .plain _ text => some text
  | .scalar .literal (some t) text => if t = tag then some text else none
  | _ => none

/-- Whether a node stands for something where nothing is possible. A tag says that the
node is something, unless it is the tag of nothing; then the node has to name nothing. -/
def isPresent? : Vertex → Option Bool
  | .scalar .plain none text => some !Plain.isNothing text
  | .scalar .plain (some tag) text =>
    if tag ≠ nothingTag then some true
    else if Plain.namesNothing text then some false
    else none
  | _ => some true

/-- The name of an enumeration a scalar gives: its text, or its tag over nothing. -/
def choiceName? : Vertex → Option String
  | .scalar style tag text =>
    match tag.bind localName? with
    | none => some text
    | some name => if style = .plain ∧ Plain.isNothing text then some name else none
  | _ => none

/-- An integer or a text, as the tag of a scalar says, or without a tag its style and its
text. -/
def integerOrText? : Vertex → Option (Int ⊕ String)
  | .scalar .plain none text => Plain.integerOrText? text
  | .scalar _ none text => some (.inr text)
  | .scalar _ (some tag) text =>
    if tag = integerTag then (Plain.integer? text).map .inl
    else if (localName? tag).isSome ∨ [flagTag, realTag, nothingTag].contains tag then none
    else some (.inr text)
  | _ => none

/-! ## Collections -/

/-- Whether a node is a plain scalar without any text. -/
def isEmptyPlain : Vertex → Bool
  | .scalar .plain _ text => text = ""
  | _ => false

/-- The entries of a mapping whose keys are scalars. -/
def mappingEntries? (g : Graph) : Vertex → Option (List (String × Vertex))
  | .map entries => entries.mapM fun e => (scalarText? (g.follow e.1)).map fun key => (key, e.2)
  | v => if isEmptyPlain v then some [] else none

/-- The items of a list. -/
def listItems? : Vertex → Option (List Vertex)
  | .seq items => some items
  | v => if isEmptyPlain v then some [] else none

/-- The nodes of a YAML document as a schema sees them. -/
def yaml (g : Graph) : Dialect Vertex where
  text? v := scalarText? (g.follow v)
  integer? v := (kindText? integerTag (g.follow v)).bind Plain.integer?
  flag? v := (kindText? flagTag (g.follow v)).bind Plain.flag?
  isPresent? v := isPresent? (g.follow v)
  choice? v := choiceName? (g.follow v)
  integerOrText? v := integerOrText? (g.follow v)
  fields? v := (mappingEntries? g (g.follow v)).map .named
  entries? v := mappingEntries? g (g.follow v)
  items? v := listItems? (g.follow v)

end WorkerGroup.Schema
