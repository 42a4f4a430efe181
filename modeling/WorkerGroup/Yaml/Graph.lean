/-
YAML documents as graphs: every tag in full, and every alias as a reference to the node
it stands for.

Anchors are numbered by how many different names there have been before. A name that is
used again takes the number that the next new name takes as well, and a reference is to
the last node that was given its number; so an alias stands for the last node under its
name unless a new name comes after that. A node may hold references to itself, and it is
for the reader of the graph to stop following them.

How often references are followed is not counted. A reader can be guarded against documents that
get out of hand when every alias is written out, and then gives up at more than a hundred
references for each event of the document; there is no such limit here, so a document beyond it
is read like any other.
-/
import WorkerGroup.Yaml.Directive

set_option autoImplicit false

namespace WorkerGroup.Yaml

/-- A node of the graph. The tags of collections are not kept, since nothing depends on
them. -/
inductive Vertex where
  | scalar (style : Style) (tag : Option String) (text : String)
  | seq (items : List Vertex)
  | map (entries : List (Vertex × Vertex))
  /-- The node of a number. -/
  | ref (number : Nat)
deriving Inhabited

/-- A document: where it starts, and the nodes that references are to. -/
structure Graph where
  root : Vertex
  targets : List (Nat × Vertex) := []

/-- What a vertex is when references are followed. No reference is to another one. -/
def Graph.follow (g : Graph) : Vertex → Vertex
  | .ref number => (g.targets.lookup number).getD (.ref number)
  | v => v

/-! ## From trees to graphs -/

/-- The names of anchors so far, the latest first, with their numbers. -/
structure Anchors where
  names : List (String × Nat) := []
  /-- How many different names there are. -/
  count : Nat := 0

namespace Anchors

/-- The names after one more, which may have been used before. -/
def declare (as : Anchors) (name : String) : Anchors :=
  { names := (name, as.count) :: as.names
    count := if (as.names.lookup name).isSome then as.count else as.count + 1 }

/-- The names after those of a node in front of it. -/
def enter (as : Anchors) (props : Properties) : Anchors :=
  props.anchor.elim as as.declare

/-- The target that a node with some properties is. -/
def target (as : Anchors) (props : Properties) (v : Vertex) : List (Nat × Vertex) :=
  if props.anchor.isSome then [(as.count, v)] else []

end Anchors

/-- The tag of a node, which is in order if it has none. -/
def Directives.nodeTag? (ds : Directives) (props : Properties) : Option (Option String) :=
  match props.tag with
  | none => some none
  | some name => (ds.tag? name).map some

/-- The tag of a scalar. A lone exclamation mark is no tag, unless there is nothing that
it stands in front of. -/
def Directives.scalarTag? (ds : Directives) (props : Properties) (style : Style)
    (text : String) : Option (Option String) :=
  (ds.nodeTag? props).map fun tag =>
    if tag = some "!" ∧ ¬(style = .plain ∧ text = "") then none else tag

mutual

/-- The vertex of a node, the names of anchors after it, and the targets in it in the
order of their anchors. -/
def Node.vertex? (ds : Directives) (as : Anchors) :
    Node → Option (Vertex × Anchors × List (Nat × Vertex))
  | .scalar props style text => do
    let v := .scalar style (← ds.scalarTag? props style text) text
    some (v, as.enter props, as.target props v)
  | .seq props items => do
    let _ ← ds.nodeTag? props
    let (items, after, targets) ← Node.vertices? ds (as.enter props) items
    some (.seq items, after, as.target props (.seq items) ++ targets)
  | .map props entries => do
    let _ ← ds.nodeTag? props
    let (entries, after, targets) ← Node.entryVertices? ds (as.enter props) entries
    some (.map entries, after, as.target props (.map entries) ++ targets)
  | .alias name => (as.names.lookup name).map fun number => (.ref number, as, [])

/-- The vertices of the items of a list. -/
def Node.vertices? (ds : Directives) (as : Anchors) :
    List Node → Option (List Vertex × Anchors × List (Nat × Vertex))
  | [] => some ([], as, [])
  | node :: nodes => do
    let (v, as, targets) ← Node.vertex? ds as node
    let (vs, as, more) ← Node.vertices? ds as nodes
    some (v :: vs, as, targets ++ more)

/-- The vertices of the entries of a mapping. -/
def Node.entryVertices? (ds : Directives) (as : Anchors) :
    List (Node × Node) → Option (List (Vertex × Vertex) × Anchors × List (Nat × Vertex))
  | [] => some ([], as, [])
  | (key, value) :: entries => do
    let (k, as, keyTargets) ← Node.vertex? ds as key
    let (v, as, valueTargets) ← Node.vertex? ds as value
    let (rest, as, more) ← Node.entryVertices? ds as entries
    some ((k, v) :: rest, as, keyTargets ++ valueTargets ++ more)

end

/-- The graph of a tree, if every tag and every alias in it has a meaning. -/
def Node.graph? (ds : Directives) (node : Node) : Option Graph :=
  (node.vertex? ds {}).map fun (root, _, targets) => { root, targets := targets.reverse }

end WorkerGroup.Yaml
