/-
YAML documents as trees, the way they are written.

A scalar is known by its text and by the style it was written in: a plain scalar can be
anything, and what it is depends on what is expected of it. So nothing is decided here,
and a plain `1` stays a plain `1` until a schema asks for an integer or for a text.

In front of a node its properties may stand, an anchor that names it and a tag that says
what it is. Where a node was written as the alias of an earlier one, the tree has the
name only.
-/
set_option autoImplicit false

namespace WorkerGroup.Yaml

/-! ## Properties -/

/-- A tag as it is written: the handle it starts with, which a directive may give a
meaning, and the rest. A tag that is written in full has no handle. -/
structure TagName where
  handle : String
  suffix : String
deriving DecidableEq

/-- What may stand in front of a node. -/
structure Properties where
  anchor : Option String := none
  tag : Option TagName := none
deriving DecidableEq

/-- The properties of a node that are written in two parts. A node has one anchor and one
tag at most. -/
def Properties.and? (p q : Properties) : Option Properties :=
  if (p.anchor.isSome && q.anchor.isSome) || (p.tag.isSome && q.tag.isSome) then none
  else some ⟨p.anchor <|> q.anchor, p.tag <|> q.tag⟩

/-! ## Nodes -/

/-- How a scalar is written. -/
inductive Style where
  /-- Without quotes. -/
  | plain
  /-- As a block that keeps its lines. -/
  | literal
  /-- In quotes, or as a block that folds its lines. -/
  | other
deriving DecidableEq

/-- A node of a document. -/
inductive Node where
  | scalar (props : Properties) (style : Style) (text : String)
  | seq (props : Properties) (items : List Node)
  /-- A mapping, its entries in the order they were written. -/
  | map (props : Properties) (entries : List (Node × Node))
  /-- Another mention of the node under an anchor. -/
  | alias (name : String)
deriving Inhabited

namespace Node

/-- The node of nothing at all: what a key without a value has. -/
def nothing (props : Properties) : Node :=
  .scalar props .plain ""

/-- A node with further properties in front of it; an alias has none of its own. -/
def withProperties? (props : Properties) : Node → Option Node
  | .scalar own style text => (props.and? own).map fun p => .scalar p style text
  | .seq own items => (props.and? own).map fun p => .seq p items
  | .map own entries => (props.and? own).map fun p => .map p entries
  | .alias name => if props = {} then some (.alias name) else none

end Node

end WorkerGroup.Yaml
