/-
The documents in a joined text.

Documents are joined one at a time, and what goes between the text so far and the next
document is decided by how that text ends: nothing when it is empty, a separator when it
ends in a line feed, a line feed and a separator otherwise. Seen from the end result this is
no decision about the text at all. Empty documents at the front leave no trace, and from the
first that is not empty on, every document but the last is ended where it stands, and a
separator follows it (`foldl_appendDocument_eq_joined`).

So every separator is written at the start of a line. A reader that splits the text at the
lines that are separators finds these and, if no document has such a line of its own, no
others (`documents_ended_append`).
-/
import WorkerGroup.Proofs.Bootstrap.Stages
import WorkerGroup.Proofs.Text.Pieces

set_option autoImplicit false

namespace WorkerGroup.Bootstrap.Payload

open WorkerGroup.Text

/-! ## Reading -/

/-- The line that separates two documents. -/
def separatorLine : String := "---"

/-- Lines as text, a line feed behind each. -/
def endedLines (lines : List String) : String :=
  String.join (lines.map (· ++ "\n"))

/-- The documents of a text that was split into lines and these at the separators. The
last document goes on to the end of the text; the others end with their last line. -/
def documentsOf : List (List String) → List String
  | [] => []
  | [lines] => ["\n".intercalate lines]
  | lines :: more => endedLines lines :: documentsOf more

/-- The documents of a text: what stands between the lines of it that are separators. -/
def documents (text : String) : List String :=
  documentsOf ((pieces '\n' text).splitOn separatorLine)

/-- A document without a separator in it is read as one. -/
theorem documents_of_notMem {d : String} (h : separatorLine ∉ pieces '\n' d) :
    documents d = [d] := by
  rw [documents, List.splitOn_eq_singleton h, documentsOf, intercalate_pieces rfl]

/-! ## Ending a document -/

/-- A document as it stands before a separator: a line feed ends its last line, if there is
any line. -/
def ended (d : String) : String :=
  if d = "" ∨ d.toList.getLast? = some '\n' then d else d ++ "\n"

/-- A document before a separator consists of whole lines, and these are lines of it. -/
theorem exists_ended_eq (d : String) :
    ∃ lines, ended d = endedLines lines ∧ (∀ line ∈ lines, line ∈ pieces '\n' d) ∧
      ∀ t, pieces '\n' (ended d ++ t) = lines ++ pieces '\n' t := by
  have lf : "\n".toList = ['\n'] := rfl
  -- A text that ends in a line feed has an empty piece behind it, which is no line of the
  -- document before a separator; the lines are then the pieces of what the line feed ends.
  by_cases empty : d = ""
  · refine ⟨[], ?_, nofun, fun t => ?_⟩
    · rw [ended, if_pos (.inl empty), empty]
      rfl
    · rw [ended, if_pos (.inl empty), empty, String.empty_append, List.nil_append]
  by_cases closed : d.toList.getLast? = some '\n'
  · obtain ⟨cs, split⟩ := List.getLast?_eq_some_iff.1 closed
    have text : d = String.ofList cs ++ "\n" := by
      rw [← String.toList_inj, String.toList_append, String.toList_ofList, split, lf]
    refine ⟨pieces '\n' (String.ofList cs), ?_, fun line listed => ?_, fun t => ?_⟩
    · rw [ended, if_pos (.inr closed), endedLines, join_pieces_ended lf, text]
    · have all : pieces '\n' d = pieces '\n' (String.ofList cs) ++ pieces '\n' "" := by
        rw [← pieces_append lf, String.append_empty, text]
      rw [all]
      exact List.mem_append_left _ listed
    · rw [ended, if_pos (.inr closed), text, pieces_append lf]
  · have still : ¬ (d = "" ∨ d.toList.getLast? = some '\n') := not_or.2 ⟨empty, closed⟩
    refine ⟨pieces '\n' d, ?_, fun _ => id, fun t => ?_⟩
    · rw [ended, if_neg still, endedLines, join_pieces_ended lf]
    · rw [ended, if_neg still, pieces_append lf]

/-- **A document before a separator is read as it stands there**, and what follows the
separator as if it stood alone. -/
theorem documents_ended_append {d : String} (h : separatorLine ∉ pieces '\n' d) (t : String) :
    documents (ended d ++ separator ++ t) = ended d :: documents t := by
  obtain ⟨lines, text, listed, split⟩ := exists_ended_eq d
  have lf : "\n".toList = ['\n'] := rfl
  have written : separator ++ t = separatorLine ++ "\n" ++ t := rfl
  have alone : pieces '\n' separatorLine = [separatorLine] :=
    pieces_of_notMem (by decide)
  have fresh : separatorLine ∉ lines := fun own => h (listed _ own)
  -- The separator stands at the start of a line and takes up all of it, so it is a piece of
  -- its own, and the first of its kind.
  rw [documents, String.append_assoc, split, written, pieces_append lf, alone,
    List.singleton_append, List.splitOn_append_cons_self_of_not_mem fresh, text]
  obtain ⟨block, blocks, rest⟩ :=
    List.exists_cons_of_ne_nil (List.splitOn_ne_nil separatorLine (pieces '\n' t))
  rw [documents, rest, documentsOf]
  exact List.cons_ne_nil _ _

/-! ## Writing -/

/-- Documents as they are written one after another. -/
def joined : List String → String
  | [] => ""
  | [d] => d
  | d :: more => ended d ++ separator ++ joined more

theorem joined_cons_cons (d e : String) (docs : List String) :
    joined (d :: e :: docs) = ended d ++ separator ++ joined (e :: docs) :=
  rfl

/-- A text that is not empty is ended before the next document is appended. -/
theorem appendDocument_of_ne_empty {documents : String} (h : documents ≠ "") (d : String) :
    appendDocument documents d = ended documents ++ separator ++ d := by
  rw [appendDocument, if_neg h, ended]
  by_cases closed : documents.toList.getLast? = some '\n'
  · rw [if_pos closed, if_pos (.inr closed)]
  · rw [if_neg closed, if_neg (not_or.2 ⟨h, closed⟩)]

/-- A text with a separator in it is not empty. -/
theorem append_separator_ne_empty (front d : String) : front ++ separator ++ d ≠ "" := by
  intro empty
  have gone := congrArg String.toList empty
  rw [String.toList_append, String.toList_append] at gone
  exact absurd (List.append_eq_nil_iff.1 (List.append_eq_nil_iff.1 gone).1).2 (by decide)

/-- Behind a separator a text ends as the document there does. -/
theorem ended_append (front d : String) :
    ended (front ++ separator ++ d) = front ++ separator ++ ended d := by
  have last : (front ++ separator ++ d).toList.getLast? =
      d.toList.getLast?.or (some '\n') := by
    rw [String.toList_append, String.toList_append, List.getLast?_append, List.getLast?_append]
    rfl
  by_cases empty : d = ""
  · have closed : (front ++ separator ++ d).toList.getLast? = some '\n' := by
      rw [last, empty]
      rfl
    rw [ended, if_pos (.inr closed), ended, if_pos (.inl empty)]
  have some_char : d.toList ≠ [] := toList_ne_nil_iff.2 empty
  rw [Option.or_of_isSome (List.getLast?_isSome.2 some_char)] at last
  rw [ended, ended, last]
  by_cases closed : d.toList.getLast? = some '\n'
  · rw [if_pos (.inr closed), if_pos (.inr closed)]
  · rw [if_neg (not_or.2 ⟨append_separator_ne_empty front d, closed⟩),
      if_neg (not_or.2 ⟨empty, closed⟩), String.append_assoc]

theorem appendDocument_behind (front d e : String) :
    appendDocument (front ++ separator ++ d) e =
      front ++ separator ++ ended d ++ separator ++ e := by
  rw [appendDocument_of_ne_empty (append_separator_ne_empty front d), ended_append]

/-- Documents appended behind a separator are written one after another there. -/
theorem foldl_appendDocument_behind (front d : String) (docs : List String) :
    docs.foldl appendDocument (front ++ separator ++ d) =
      front ++ separator ++ joined (d :: docs) := by
  -- What stands in front does not matter any more, so the induction takes it along.
  induction docs generalizing front d with
  | nil => rfl
  | cons e docs ih =>
    rw [List.foldl_cons, appendDocument_behind, ih, joined_cons_cons]
    simp only [String.append_assoc]

/-- **Joining writes the documents one after another**, from the first on that is not empty. -/
theorem foldl_appendDocument_eq_joined (docs : List String) :
    docs.foldl appendDocument "" = joined (docs.dropWhile (· = "")) := by
  induction docs with
  | nil => rfl
  | cons d docs ih =>
    by_cases empty : d = ""
    · subst empty
      exact ih
    · rw [List.dropWhile_cons_of_neg (by rwa [decide_eq_true_iff])]
      cases docs with
      | nil => rfl
      | cons e docs =>
        have first : appendDocument "" d = d := rfl
        rw [List.foldl_cons, List.foldl_cons, first, appendDocument_of_ne_empty empty,
          foldl_appendDocument_behind, joined_cons_cons]

/-! ## Reading what was written -/

/-- **The documents are read back in order**, each but the last with its last line ended. -/
theorem documents_joined {docs : List String} (some : docs ≠ [])
    (fresh : ∀ d ∈ docs, separatorLine ∉ pieces '\n' d) :
    documents (joined docs) = docs.dropLast.map ended ++ [docs.getLast some] := by
  induction docs with
  | nil => exact absurd rfl some
  | cons d docs ih =>
    obtain ⟨first, later⟩ := List.forall_mem_cons.1 fresh
    cases docs with
    | nil => exact documents_of_notMem first
    | cons e docs =>
      rw [joined_cons_cons, documents_ended_append first, ih (List.cons_ne_nil e docs) later]
      rfl

/-- **The node configuration documents are in the payload's text**, and can be read back from
it. Of the documents of a list of stages those at the front that are empty leave no trace. If
no others are left the text is empty; if there are some, and none has a line of its own that
is a separator, then the text splits at its separators into just these documents, where all
but the last have a line feed at their end unless they are empty. -/
theorem documents_nodeConfigYaml (stages : List UserDataStage) :
    let docs := (stageData UserDataStage.nodeConfig stages).dropWhile (· = "")
    (docs = [] → (ofStages stages).nodeConfigYaml = "") ∧
      ∀ some : docs ≠ [], (∀ d ∈ docs, separatorLine ∉ pieces '\n' d) →
        documents (ofStages stages).nodeConfigYaml =
          docs.dropLast.map ended ++ [docs.getLast some] := by
  intro docs
  have text : (ofStages stages).nodeConfigYaml = joined docs := by
    rw [ofStages_eq]
    exact foldl_appendDocument_eq_joined _
  rw [text]
  refine ⟨fun none => ?_, documents_joined⟩
  rw [none]
  rfl

/-- An empty document in front is gone and the one in the middle is still there; the document
with no line feed at its end has got one, the one that had one has not, and the last one is
as it was, although it starts like a separator. -/
theorem documents_nodeConfigYaml_of_five :
    let stages : List UserDataStage :=
      [⟨"none", "NodeConfigYaml", ""⟩, ⟨"a", "nodeconfigyaml", "a: 1"⟩,
        ⟨"script", "PreBootstrap", "---"⟩, ⟨"none", "NODECONFIGYAML", ""⟩,
        ⟨"b", "NodeConfigYaml", " YjogMgo=\n"⟩, ⟨"c", "NodeConfigYaml", "--- c"⟩]
    stageData UserDataStage.nodeConfig stages = ["", "a: 1", "", "b: 2\n", "--- c"] ∧
      documents (ofStages stages).nodeConfigYaml = ["a: 1\n", "", "b: 2\n", "--- c"] ∧
      (ofStages (stages.take 1)).nodeConfigYaml = "" := by
  intro stages
  have data : stageData UserDataStage.nodeConfig stages = ["", "a: 1", "", "b: 2\n", "--- c"] := by
    decide
  have docs : (stageData UserDataStage.nodeConfig stages).dropWhile (· = "") =
      ["a: 1", "", "b: 2\n", "--- c"] := by
    rw [data]
    decide
  have read := (documents_nodeConfigYaml stages).2 (by rw [docs]; decide)
    (by rw [docs]; decide)
  simp only [docs] at read
  exact ⟨data, read, (documents_nodeConfigYaml (stages.take 1)).1 (by decide)⟩

end WorkerGroup.Bootstrap.Payload
