/-
A text of JSON is a document of YAML.

A whole text is read outside of brackets first, where a brace starts a node on a line. What JSON
has written is printable, so nothing about its line breaks is made alike and every character of
it is permitted; the node reaches to the end of the text, hence no colon follows that would make
a key of it, and no mark; and there are no anchors and no tags in it, so it is the graph
`Json.vertex` without references (`parse?_compactText`).

A schema sees that graph as JSON would see the value (`Schema.yaml_shows`): an integer is plain
and has no zero in front, the word of nothing is plain too, and a string is in quotes, so it is a
text whatever it spells.
-/
import WorkerGroup.Proofs.Lists
import WorkerGroup.Proofs.Yaml.Flow
import WorkerGroup.Proofs.Yaml.Plain
import WorkerGroup.Schema.Yaml
import WorkerGroup.Yaml.Document

set_option autoImplicit false

namespace WorkerGroup

open Json (quoted compact compactItems compactMembers forall_mem_chars)

/-! ## Values as vertices -/

/-- A value of JSON as a vertex of YAML. -/
def Json.vertex : Json → Yaml.Vertex
  | .null => .scalar .plain none "null"
  | .bool b => .scalar .plain none (if b then "true" else "false")
  | .int n => .scalar .plain none (String.ofList (Text.Decimal.integer n))
  | .raw text => .scalar .plain none text
  | .str s => .scalar .other none s
  | .arr items => .seq (items.map vertex)
  | .obj members => .map (members.map fun m => (.scalar .other none m.1, vertex m.2))
decreasing_by
  · rename_i h
    have := List.sizeOf_lt_of_mem h
    decreasing_tactic
  · rename_i h
    have := Json.sizeOf_snd_lt h
    rw [obj.sizeOf_spec]
    exact this

namespace Yaml

variable {key text : String → Prop}

theorem vertices?_node {items : List Json} {ds : Directives} {as : Anchors}
    (h : ∀ v ∈ items, v.node.vertex? ds as = some (v.vertex, as, [])) :
    Node.vertices? ds as (items.map Json.node) = some (items.map Json.vertex, as, []) := by
  induction items with
  | nil => rfl
  | cons v items ih =>
    rw [List.map_cons, Node.vertices?, h v List.mem_cons_self]
    simp only [Option.bind_eq_bind, Option.bind_some,
      ih fun w hw => h w (List.mem_cons_of_mem _ hw)]
    rfl

theorem entryVertices?_node {members : List (String × Json)} {ds : Directives} {as : Anchors}
    (h : ∀ m ∈ members, m.2.node.vertex? ds as = some (m.2.vertex, as, [])) :
    Node.entryVertices? ds as
        (members.map fun m => (.scalar {} .other m.1, m.2.node)) =
      some (members.map fun m => (.scalar .other none m.1, m.2.vertex), as, []) := by
  induction members with
  | nil => rfl
  | cons m members ih =>
    have name : (Node.scalar {} .other m.1).vertex? ds as =
        some (.scalar .other none m.1, as, []) := rfl
    rw [List.map_cons, Node.entryVertices?, name]
    simp only [Option.bind_eq_bind, Option.bind_some, h m List.mem_cons_self,
      ih fun n hn => h n (List.mem_cons_of_mem _ hn)]
    rfl

/-- Nothing in a value of JSON has an anchor or a tag. -/
theorem vertex?_node {v : Json} (h : v.Within key text) (ds : Directives) (as : Anchors) :
    v.node.vertex? ds as = some (v.vertex, as, []) := by
  induction h with
  | null | bool _ | int _ | str _ =>
    rw [Json.node, Json.vertex]
    rfl
  | @arr items _ ih =>
    have all : Node.vertices? ds (as.enter {}) (items.map Json.node) =
        some (items.map Json.vertex, as, []) := vertices?_node ih
    rw [Json.node, Json.vertex, Node.vertex?, all]
    rfl
  | @obj members _ _ ih =>
    have all : Node.entryVertices? ds (as.enter {})
        (members.map fun m => (.scalar {} .other m.1, m.2.node)) =
          some (members.map fun m => (.scalar .other none m.1, m.2.vertex), as, []) :=
      entryVertices?_node ih
    rw [Json.node, Json.vertex, Node.vertex?, all]
    rfl

/-! ## Characters of a text -/

theorem printable_wordChars : ∀ c ∈ wordChars, IsPrintable c :=
  forall_mem_chars (by decide)

theorem printable_compactItems {items : List Json}
    (h : ∀ v ∈ items, ∀ c ∈ compact v, IsPrintable c) :
    ∀ c ∈ compactItems items, IsPrintable c := by
  induction items with
  | nil =>
    rw [compactItems]
    exact forall_mem_chars (by decide)
  | cons v items ih =>
    rw [compactItems, List.forall_mem_cons, List.forall_mem_append]
    exact ⟨by decide, h v List.mem_cons_self, ih fun w hw => h w (List.mem_cons_of_mem _ hw)⟩

theorem printable_compactMembers {members : List (String × Json)}
    (keys : ∀ m ∈ members, ShortKey m.1) (h : ∀ m ∈ members, ∀ c ∈ compact m.2, IsPrintable c) :
    ∀ c ∈ compactMembers members, IsPrintable c := by
  induction members with
  | nil =>
    rw [compactMembers]
    exact forall_mem_chars (by decide)
  | cons m members ih =>
    rw [compactMembers, List.forall_mem_cons, List.forall_mem_append, List.forall_mem_cons,
      List.forall_mem_append]
    exact ⟨by decide, printable_quoted (keys m List.mem_cons_self).1, by decide,
      h m List.mem_cons_self, ih (fun n hn => keys n (List.mem_cons_of_mem _ hn))
        fun n hn => h n (List.mem_cons_of_mem _ hn)⟩

/-- What a value is written in is printable, its line feeds included. -/
theorem printable_compact {v : Json} (h : v.Within ShortKey Readable) :
    ∀ c ∈ compact v, IsPrintable c := by
  induction h with
  | null =>
    rw [compact]
    exact forall_mem_chars (by decide)
  | bool b =>
    cases b <;> rw [compact] <;> exact forall_mem_chars (by decide)
  | int n =>
    have digits (n : Nat) : ∀ c ∈ Text.Decimal.digits n, IsPrintable c := fun c hc =>
      printable_wordChars c (mem_wordChars_of_mem_digits n c hc)
    rw [compact]
    cases n with
    | ofNat n => exact digits n
    | negSucc n => exact List.forall_mem_cons.2 ⟨by decide, digits (n + 1)⟩
  | str readable =>
    rw [compact]
    exact printable_quoted readable
  | @arr items _ ih =>
    cases items with
    | nil =>
      rw [compact]
      exact forall_mem_chars (by decide)
    | cons item items =>
      rw [compact, List.forall_mem_cons, List.forall_mem_append]
      exact ⟨by decide, ih item List.mem_cons_self,
        printable_compactItems fun v hv => ih v (List.mem_cons_of_mem _ hv)⟩
  | @obj members keys _ ih =>
    rcases members with _ | ⟨m, members⟩
    · rw [compact]
      exact forall_mem_chars (by decide)
    · have more := printable_compactMembers keys ih
      rw [compactMembers, List.forall_mem_cons] at more
      rw [compact, List.forall_mem_cons]
      exact ⟨by decide, more.2⟩

/-- There are no breaks to make alike in printable characters. -/
theorem normalizeBreaks_of_printable {cs : List Char} (h : ∀ c ∈ cs, IsPrintable c) :
    normalizeBreaks cs = cs := by
  induction cs with
  | nil => rfl
  | cons c cs ih =>
    have bare := (forall_printable (p := fun c => c ≠ '\r' ∧ ¬(c = '\r' ∨ c = '\x85'))
      (by decide)) c (h c List.mem_cons_self)
    rw [normalizeBreaks, if_neg bare.2, ih fun d hd => h d (List.mem_cons_of_mem _ hd)]
    exact fun _ carriage => absurd carriage bare.1

theorem all_isPermitted_of_printable {cs : List Char} (h : ∀ c ∈ cs, IsPrintable c) :
    cs.all isPermitted = true := by
  rw [List.all_eq_true]
  exact fun c hc => forall_printable (p := fun c => isPermitted c = true) (by decide) c (h c hc)

/-! ## Documents -/

/-- There are no directives in front of a brace. -/
theorem directives?_brace (fuel : Nat) (cs : List Char) :
    directives? fuel {} (Place.next true false 0 ('\x7b' :: cs)) =
      some ({}, ⟨0, true, '\x7b' :: cs⟩) := by
  cases fuel <;> rfl

/-- A mapping in braces that reaches to the end of a text is its document. -/
theorem documentNode?_brace {fuel : Nat} {cs : List Char} {entries : List (Node × Node)}
    (h : content? false 0 {} fuel ('\x7b' :: cs) = some (.map {} entries, [])) :
    documentNode? (fuel + 1) false ⟨0, true, '\x7b' :: cs⟩ =
      some (.map {} entries, ⟨1, true, []⟩) := by
  have block : documentNode? (fuel + 1) false ⟨0, true, '\x7b' :: cs⟩ =
      blockNode? 0 false (fuel + 1) {} ⟨0, true, '\x7b' :: cs⟩ := rfl
  -- Nothing else that a line can start with starts with a brace.
  have within : Place.isWithin ⟨0, true, '\x7b' :: cs⟩ 0 = true := rfl
  have no_list : atDash ('\x7b' :: cs) = false ∧ atQuestion ('\x7b' :: cs) = false := ⟨rfl, rfl⟩
  have bare : lineProperties? ('\x7b' :: cs) = some ({}, '\x7b' :: cs) := rfl
  have no_marker : atBlockScalar ('\x7b' :: cs) = false := rfl
  have line : lineNode? 0 fuel {} ('\x7b' :: cs) = some (.map {} entries, []) := h
  rw [block, blockNode?]
  simp only [within, no_list, bare, no_marker, line, Option.bind_eq_bind, Option.bind_some,
    if_true, Bool.false_eq_true, if_false]
  rfl

/-- **A text of JSON is a document**, which is its value as a graph without references. -/
theorem parse?_compactText {members : List (String × Json)}
    (h : (Json.obj members).Within ShortKey Readable) :
    parse? (Json.obj members).compactText = some { root := (Json.obj members).vertex } := by
  have printable := printable_compact h
  obtain ⟨cs, braced⟩ : ∃ cs, compact (.obj members) = '\x7b' :: cs := by
    rcases members with _ | ⟨m, members⟩ <;> exact ⟨_, by rw [compact]⟩
  have content : content? false 0 {} (4 * (compact (.obj members)).length + 3)
      (compact (.obj members)) = some ((Json.obj members).node, []) := by
    cases h with
    | obj keys within =>
      -- Outside of brackets there are four units for each character, twice of what is needed.
      have whole := content?_obj keys within (fun m hm => flowNode?_compact (within m hm)) false 0
        (4 * (compact (.obj members)).length + 2) [] (by omega)
      rwa [List.append_nil] at whole
  have graph := vertex?_node h {} {}
  rw [Json.node] at content graph
  rw [braced] at content printable
  rw [parse?, Json.compactText, String.toList_ofList, braced]
  simp only [normalizeBreaks_of_printable printable, all_isPermitted_of_printable printable,
    directives?_brace, Option.bind_eq_bind, Option.bind_some]
  have whole : (Place.afterEnds ('\x7b' :: cs).length ⟨1, true, []⟩).rest.isEmpty = true := rfl
  have undirected : (!Directives.isEmpty {}) = false := rfl
  simp only [undirected, documentNode?_brace content, Option.bind_some, whole, if_true,
    Node.graph?, graph]
  rfl

end Yaml

/-! ## The schema's view -/

namespace Schema

open Yaml

/-- Where there are no references, every vertex is itself. -/
theorem follow_eq (root v : Vertex) : (Yaml.Graph.mk root []).follow v = v := by
  cases v <;> rfl

theorem mappingEntries?_vertex (root : Vertex) (members : List (String × Json)) :
    mappingEntries? ⟨root, []⟩ (Json.obj members).vertex =
      some (members.map fun m => (m.1, m.2.vertex)) := by
  rw [Json.vertex, mappingEntries?]
  refine Lists.mapM_map_eq_some fun m _ => ?_
  rw [follow_eq]
  rfl

/-- **YAML shows JSON**: a schema sees in the graph of a text what JSON would see. -/
instance yaml_shows (root : Vertex) : Shows (yaml ⟨root, []⟩) Json.vertex where
  text s := by simp [yaml, follow_eq, Json.vertex, scalarText?]
  integer h := by simp [yaml, follow_eq, Json.vertex, kindText?, Plain.integer?_integer h]
  flag b := by cases b <;> simp [yaml, follow_eq, Json.vertex, kindText?, Plain.flag?]
  null := by simp [yaml, follow_eq, Json.vertex, isPresent?, Plain.isNothing, Plain.namesNothing]
  value {v} h := by
    cases v with
    | null | raw _ => exact h.elim
    | bool b =>
      cases b <;> simp [yaml, follow_eq, Json.vertex, isPresent?, Plain.isNothing,
        Plain.namesNothing]
    | int n => simp [yaml, follow_eq, Json.vertex, isPresent?, Plain.isNothing_integer]
    | str _ | arr _ | obj _ => simp [yaml, follow_eq, Json.vertex, isPresent?]
  choice s := by simp [yaml, follow_eq, Json.vertex, choiceName?]
  integerOrText_text s := by simp [yaml, follow_eq, Json.vertex, integerOrText?]
  integerOrText_integer h := by
    simp [yaml, follow_eq, Json.vertex, integerOrText?, Plain.integerOrText?_integer h]
  fields ms := by simp [yaml, follow_eq, mappingEntries?_vertex]
  entries ms := by simp [yaml, follow_eq, mappingEntries?_vertex]
  items vs := by simp [yaml, follow_eq, Json.vertex, listItems?]

end Schema

end WorkerGroup
