/-
YAML documents: collections by indentation, and the document around them.

Outside brackets a collection is known by the column its entries start at. A list's
entries start with a hyphen, a mapping's with a key or with a question mark that makes a
key of any node; an entry ends where something starts at the collection's column or left
of it. What starts to the right of it belongs to the entry, as does a block scalar right
below its start, and a list that is the key or the value of an entry may start right
below it.

A new key, hyphen or question mark may only stand where nothing but indentation, hyphens
and question marks stand before it on its line, and indentation is made of spaces. After
a complete node only a comment may follow on its line. Properties belong to what follows
them: in front of a key, on its line, to the key, and on a line of their own to what
starts below.

A text is one document. Directives and a mark may stand before it and other marks after
it; a text that holds nothing is a document with nothing in it.
-/
import WorkerGroup.Yaml.Flow
import WorkerGroup.Yaml.Graph

set_option autoImplicit false

namespace WorkerGroup.Yaml

/-! ## Places -/

/-- A place in a text, outside brackets. -/
structure Place where
  column : Nat
  /-- Whether a collection may start here. -/
  keyable : Bool
  rest : List Char

/-- The next place that is at something: after gaps, comments and breaks. Tabs are gaps
only where no collection may start. -/
def Place.next (keyable comment : Bool) (column : Nat) : List Char → Place
  | [] => ⟨column, true, []⟩
  | c :: rest =>
    if isBreak c then next true false 0 rest
    else if comment then next keyable true (column + 1) rest
    else if c = ' ' ∨ (c = '\t' ∧ !keyable) ∨ (c = byteOrderMark ∧ column = 0) then
      next keyable false (column + 1) rest
    else if c = '#' then next keyable true (column + 1) rest
    else ⟨column, keyable, c :: rest⟩

/-- The place behind an indicator at a place, where a collection may start. -/
def Place.behind (p : Place) : Place :=
  Place.next true false (p.column + 1) (p.rest.drop 1)

/-- Whether a place is behind everything in the document. -/
def Place.ends (p : Place) : Bool :=
  p.rest.isEmpty || (p.column == 0 && atMark p.rest)

/-- Whether a place is at an entry of a collection at a column, whatever it is. -/
def Place.isAt (p : Place) (column : Nat) : Bool :=
  !p.ends && p.column == column

/-- Whether a place belongs to an entry, behind whose start only what is at or right of a
margin does: what follows on the entry's line, what keeps to the margin, and a block
scalar, whose marker may stand right below the entry's start. -/
def Place.isWithin (p : Place) (margin : Nat) : Bool :=
  !p.ends && (!p.keyable || decide (margin ≤ p.column) ||
    (p.column + 1 == margin && atBlockScalar p.rest))

/-- A node that ends in the middle of a line, and the place after it, where nothing but
the end of the line may be. -/
def settle? (node : Node) (after : List Char) : Option (Node × Place) :=
  let place := Place.next false false 1 after
  if place.keyable then some (node, place) else none

/-! ## Nodes on a line -/

/-- A block scalar at its marker, and the place at the line after it. -/
def blockScalar? (margin : Nat) (props : Properties) :
    List Char → Option (Node × Place)
  | '|' :: rest => (block? true margin rest).map fun (text, after) =>
    (.scalar props .literal (String.ofList text), Place.next true false 0 after)
  | '>' :: rest => (block? false margin rest).map fun (text, after) =>
    (.scalar props .other (String.ofList text), Place.next true false 0 after)
  | _ => none

/-- A node on a line, in a text that starts with what follows its properties: an alias if
it has none, nothing if a colon comes next, and else what it holds. -/
def lineNode? (margin fuel : Nat) (props : Properties) (cs : List Char) :
    Option (Node × List Char) :=
  match cs with
  | '*' :: rest => if props = {} then aliasNode? rest else none
  | _ =>
    if props ≠ {} ∧ atColon cs then some (.nothing props, cs)
    else content? false margin props fuel cs

/-- The properties a text starts with, on their line. -/
def lineProperties? (cs : List Char) : Option (Properties × List Char) :=
  properties? false (fun cs => some (cs.dropWhile isGap)) cs

/-! ## Nodes by indentation -/

mutual

/-- The node of an entry, at a place behind the entry's start or behind properties of the
node; nothing, if the place does not belong to the entry. -/
def blockNode? (margin : Nat) (listBelow : Bool) :
    Nat → Properties → Place → Option (Node × Place)
  | 0, _, _ => none
  | fuel + 1, props, place =>
    if place.isWithin margin then
      if atDash place.rest then
        if place.keyable then
          (blockItems? place.column fuel place).map fun (items, after) =>
            (.seq props items, after)
        else none
      else if atQuestion place.rest then
        if place.keyable then
          (blockEntries? place.column fuel place).map fun (entries, after) =>
            (.map props entries, after)
        else none
      else do
        let (own, rest) ← lineProperties? place.rest
        let next :=
          if own = {} then { place with keyable := false } else Place.next false false 1 rest
        if next.keyable then
          blockNode? margin listBelow fuel (← props.and? own) next
        else if atBlockScalar next.rest then
          blockScalar? margin (← props.and? own) next.rest
        else
          let (node, after) ← lineNode? margin fuel own next.rest
          match if place.keyable then keyColon? false place.rest after else none with
          | some rest =>
            (blockPairs? place.column fuel node rest).map fun (entries, after) =>
              (.map props entries, after)
          | none => settle? (← node.withProperties? props) after
    else if listBelow ∧ place.isAt (margin - 1) ∧ atDash place.rest then
      (blockItems? place.column fuel place).map fun (items, after) => (.seq props items, after)
    else some (.nothing props, place)
termination_by structural fuel _ _ => fuel

/-- The items of a list at a column, from a place at a hyphen on. -/
def blockItems? (column : Nat) : Nat → Place → Option (List Node × Place)
  | 0, _ => none
  | fuel + 1, place => do
    let (item, place) ← blockNode? (column + 1) false fuel {} place.behind
    if place.isAt column ∧ atDash place.rest then
      let (items, place) ← blockItems? column fuel place
      some (item :: items, place)
    else some ([item], place)
termination_by structural fuel _ => fuel

/-- The entries of a mapping at a column, from a place on that may be at one. -/
def blockEntries? (column : Nat) : Nat → Place → Option (List (Node × Node) × Place)
  | 0, _ => none
  | fuel + 1, place =>
    if !place.isAt column then some ([], place)
    else if atQuestion place.rest then do
      let (key, place) ← blockNode? (column + 1) true fuel {} place.behind
      let (value, place) ←
        if place.isAt column ∧ atColon place.rest then
          blockNode? (column + 1) true fuel {} place.behind
        else some (.nothing {}, place)
      let (entries, place) ← blockEntries? column fuel place
      some ((key, value) :: entries, place)
    else do
      let (own, rest) ← lineProperties? place.rest
      let (key, after) ← lineNode? (column + 1) fuel own rest
      blockPairs? column fuel key (← keyColon? false place.rest after)
termination_by structural fuel _ => fuel

/-- The entries of a mapping at a column, from behind the colon of a key on. -/
def blockPairs? (column : Nat) :
    Nat → Node → List Char → Option (List (Node × Node) × Place)
  | 0, _, _ => none
  | fuel + 1, key, cs => do
    let (value, place) ← blockNode? (column + 1) true fuel {} (Place.next false false 1 cs)
    let (entries, place) ← blockEntries? column fuel place
    some ((key, value) :: entries, place)
termination_by structural fuel _ _ => fuel

end

/-! ## The document -/

/-- Whether a place is at the mark that starts a document. -/
def Place.atStart (p : Place) : Bool :=
  p.column == 0 && atDocumentStart p.rest

/-- Whether a place is at the mark that ends a document. -/
def Place.atEnd (p : Place) : Bool :=
  p.column == 0 && atDocumentEnd p.rest

/-- The place behind a mark. -/
def Place.afterMark (p : Place) : Place :=
  Place.next false false 3 (p.rest.drop 3)

/-- The place behind any number of marks that end a document. Each is longer than a
character, so a text's length is enough fuel. -/
def Place.afterEnds : Nat → Place → Place
  | 0, p => p
  | fuel + 1, p => if p.atEnd then afterEnds fuel p.afterMark else p

/-- The directives at a place, each at the start of a line, and the place after them. Each
takes a line, so a text's length is enough fuel. -/
def directives? : Nat → Directives → Place → Option (Directives × Place)
  | 0, ds, place => some (ds, place)
  | fuel + 1, ds, place =>
    match place.rest with
    | '%' :: rest =>
      if place.column = 0 then do
        let (ds, after) ← ds.add? rest
        directives? fuel ds (Place.next false false 0 after)
      else some (ds, place)
    | _ => some (ds, place)

/-- The node of a document from its first place on: nothing, if a mark says that there is
a document and nothing else does, or if the text is empty. Behind directives there has to
be a mark. -/
def documentNode? (fuel : Nat) (directed : Bool) (start : Place) : Option (Node × Place) :=
  if start.atStart then blockNode? 0 false fuel {} start.afterMark
  else if directed ∨ start.atEnd then none
  else blockNode? 0 false fuel {} start

/-- The one document a text is. -/
def parse? (s : String) : Option Graph := do
  let cs := normalizeBreaks s.toList
  if !cs.all isPermitted then none
  else
    let (ds, start) ← directives? cs.length {} (Place.next true false 0 cs)
    let (node, place) ← documentNode? (4 * cs.length + 4) (!ds.isEmpty) start
    if (place.afterEnds cs.length).rest.isEmpty then node.graph? ds else none

end WorkerGroup.Yaml
