/-
YAML nodes that end where they say: quoted and plain scalars, aliases, and collections in
brackets.

Inside brackets line breaks are gaps like any other and indentation means nothing; only a
mark between documents may not stand at the start of a line. A key is told from other
nodes by the colon after it, which has to come on the line the key is on, the line it
began on, and within a limited length. A question mark makes a key of any node after it.
A key without a colon has no value, and a pair that stands alone in a list is a mapping of
that one entry.

Collections nest, so their readers take fuel. Between two characters that are taken fuel
is passed on three times at most, so four times a text's length is always enough.
-/
import WorkerGroup.Yaml.Property
import WorkerGroup.Yaml.Scalar

set_option autoImplicit false

namespace WorkerGroup.Yaml

/-! ## Gaps and keys -/

/-- The text after gaps, breaks and comments inside brackets. -/
def skipFlow? (comment lineStart : Bool) : List Char → Option (List Char)
  | [] => some []
  | c :: rest =>
    if isBreak c then skipFlow? false true rest
    else if comment then skipFlow? true false rest
    else if isGap c || (lineStart && c == byteOrderMark) then skipFlow? false false rest
    else if c = '#' then skipFlow? true false rest
    else if lineStart && atMark (c :: rest) then none
    else some (c :: rest)

/-- The most bytes a key and the gaps after it may take up. -/
def maxKeyLength : Nat := 1024

/-- The text after the colon of a key. The key reaches from one text to another, and the
colon follows it on its line; outside brackets the colon has a blank after it. -/
def keyColon? (flow : Bool) (start after : List Char) : Option (List Char) :=
  match after.dropWhile isGap with
  | ':' :: rest =>
    let key := start.take (start.length - (rest.length + 1))
    if (flow ∨ atBlank rest) ∧ byteLength key ≤ maxKeyLength ∧ !key.any isBreak then some rest
    else none
  | _ => none

/-! ## Nodes -/

/-- A scalar from its reader, with the text after it. -/
def scalarNode (props : Properties) (style : Style) (r : Option (List Char × List Char)) :
    Option (Node × List Char) :=
  r.map fun (text, after) => (.scalar props style (String.ofList text), after)

/-- An alias after its mark, with the text after it. -/
def aliasNode? (cs : List Char) : Option (Node × List Char) :=
  (name? cs).map fun (name, after) => (.alias name, after)

/-- Whether a text starts with something a node can hold, inside brackets. -/
def atFlowContent (cs : List Char) : Bool :=
  atPlain true cs || cs.head?.any fun c => ['\x7b', '[', '"', '\''].contains c

/-- The text after the mark that belongs to a question mark without a key in a list: a
colon or a comma. It is taken with the question mark and does not stand for itself. -/
def unkeyed? : List Char → Option (List Char)
  | ':' :: rest => some rest
  | ',' :: rest => some rest
  | _ => none

/-- The text after a list that ends with a question mark without a key. The question mark
takes a closing bracket as well, so that the list needs another. -/
def closed? : List Char → Option (List Char)
  | ']' :: rest =>
    match skipFlow? false false rest with
    | some (']' :: rest) => some rest
    | _ => none
  | _ => none

mutual

/-- What a node with some properties holds, inside or outside brackets, in a text that
starts with it. -/
def content? (flow : Bool) (margin : Nat) (props : Properties) :
    Nat → List Char → Option (Node × List Char)
  | 0, _ => none
  | fuel + 1, cs =>
    match cs with
    | '\x7b' :: rest => (skipFlow? false false rest).bind fun rest =>
      (flowEntries? margin fuel rest).map fun (entries, after) => (.map props entries, after)
    | '[' :: rest => (skipFlow? false false rest).bind fun rest =>
      (flowItems? margin fuel rest).map fun (items, after) => (.seq props items, after)
    | '"' :: rest => scalarNode props .other (doubleQuoted? false [] rest)
    | '\'' :: rest => scalarNode props .other (singleQuoted? [] rest)
    | _ =>
      if atPlain flow cs then scalarNode props .plain (plain? flow margin [] 1 cs) else none

/-- A node inside brackets. Properties with nothing behind them are those of nothing. -/
def flowNode? (margin : Nat) : Nat → List Char → Option (Node × List Char)
  | 0, _ => none
  | fuel + 1, cs =>
    match cs with
    | '*' :: rest => aliasNode? rest
    | _ => do
      let (props, rest) ← properties? true (skipFlow? false false) cs
      if atProperty cs ∧ !atFlowContent rest then some (.nothing props, rest)
      else content? true margin props fuel rest

/-- The items of a list in brackets, up to its closing bracket. -/
def flowItems? (margin : Nat) : Nat → List Char → Option (List Node × List Char)
  | 0, _ => none
  | fuel + 1, cs =>
    match cs with
    | ']' :: rest => some ([], rest)
    | '?' :: rest => do
      let rest ← skipFlow? false false rest
      match closed? rest with
      | some after => some ([.map {} [(.nothing {}, .nothing {})]], after)
      | none =>
        let (key, after) ← match unkeyed? rest with
          | some after => some (.nothing {}, after)
          | none => flowNode? margin fuel rest
        let (value, after) ← explicitValue? margin fuel after
        moreItems? margin fuel (.map {} [(key, value)]) after
    | _ => do
      let (node, after) ← flowNode? margin fuel cs
      match keyColon? true cs after with
      | none => moreItems? margin fuel node after
      | some rest =>
        let (value, after) ← flowValue? margin fuel rest
        moreItems? margin fuel (.map {} [(node, value)]) after

/-- The items of a list from one that has been read on. -/
def moreItems? (margin : Nat) : Nat → Node → List Char → Option (List Node × List Char)
  | 0, _, _ => none
  | fuel + 1, item, after => do
    match ← skipFlow? false false after with
    | ',' :: rest =>
      let (items, after) ← flowItems? margin fuel (← skipFlow? false false rest)
      some (item :: items, after)
    | ']' :: rest => some ([item], rest)
    | _ => none

/-- The entries of a mapping in braces, up to its closing brace. -/
def flowEntries? (margin : Nat) : Nat → List Char → Option (List (Node × Node) × List Char)
  | 0, _ => none
  | fuel + 1, cs =>
    match cs with
    | '\x7d' :: rest => some ([], rest)
    | '?' :: rest => do
      let rest ← skipFlow? false false rest
      let (key, after) ←
        if rest.head?.any [':', ',', '\x7d'].contains then some (.nothing {}, rest)
        else flowNode? margin fuel rest
      let (value, after) ← explicitValue? margin fuel after
      moreEntries? margin fuel (key, value) after
    | _ => do
      let (key, after) ← flowNode? margin fuel cs
      match keyColon? true cs after with
      | none => moreEntries? margin fuel (key, .nothing {}) after
      | some rest =>
        let (value, after) ← flowValue? margin fuel rest
        moreEntries? margin fuel (key, value) after

/-- The entries of a mapping from one that has been read on. -/
def moreEntries? (margin : Nat) :
    Nat → Node × Node → List Char → Option (List (Node × Node) × List Char)
  | 0, _, _ => none
  | fuel + 1, entry, after => do
    match ← skipFlow? false false after with
    | ',' :: rest =>
      let (entries, after) ← flowEntries? margin fuel (← skipFlow? false false rest)
      some (entry :: entries, after)
    | '\x7d' :: rest => some ([entry], rest)
    | _ => none

/-- The value of a key behind a question mark: after its colon, if it has one. -/
def explicitValue? (margin : Nat) : Nat → List Char → Option (Node × List Char)
  | 0, _ => none
  | fuel + 1, after => do
    match ← skipFlow? false false after with
    | ':' :: rest => flowValue? margin fuel rest
    | rest => some (.nothing {}, rest)

/-- The value after a colon inside brackets, nothing if there is none. -/
def flowValue? (margin : Nat) : Nat → List Char → Option (Node × List Char)
  | 0, _ => none
  | fuel + 1, cs => do
    match ← skipFlow? false false cs with
    | [] => none
    | c :: rest =>
      if c = ',' ∨ c = ']' ∨ c = '\x7d' then some (.nothing {}, c :: rest)
      else flowNode? margin fuel (c :: rest)

end

end WorkerGroup.Yaml
