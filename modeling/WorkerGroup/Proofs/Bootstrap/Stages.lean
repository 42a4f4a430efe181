/-
The payload of a list of pieces, stage by stage.

A payload is built by one pass over the pieces that sends each to one of three places. The
three do not meet: a tag is for one stage at most, since the names of the stages differ
whatever their case. So the payload is three independent readings of the list
(`ofStages_eq`): the data of each stage in order, and for node configuration documents
those data joined.

Of the joined text two things are said here, both by looking at what one more document
does to it. It is empty only when all that was joined is, and every document stands in it
as it was given.
-/
import WorkerGroup.Bootstrap.Payload
import Mathlib.Data.List.Induction

set_option autoImplicit false

namespace WorkerGroup.Bootstrap

/-! ## One stage for each tag -/

/-- A tag that is for two stages is for one stage written twice. -/
theorem foldCase_eq_of_isStage {s : UserDataStage} {a b : String} (ha : s.isStage a = true)
    (hb : s.isStage b = true) : Text.foldCase a = Text.foldCase b :=
  (eq_of_beq ha).symm.trans (eq_of_beq hb)

theorem isStage_of_ne {s : UserDataStage} {a b : String}
    (apart : Text.foldCase a ≠ Text.foldCase b) (ha : s.isStage a = true) :
    s.isStage b = false := by
  rw [Bool.eq_false_iff]
  exact fun hb => apart (foldCase_eq_of_isStage ha hb)

theorem foldCase_preBootstrap_ne_postBootstrap :
    Text.foldCase UserDataStage.preBootstrap ≠ Text.foldCase UserDataStage.postBootstrap := by
  decide

theorem foldCase_preBootstrap_ne_nodeConfig :
    Text.foldCase UserDataStage.preBootstrap ≠ Text.foldCase UserDataStage.nodeConfig := by
  decide

theorem foldCase_postBootstrap_ne_nodeConfig :
    Text.foldCase UserDataStage.postBootstrap ≠ Text.foldCase UserDataStage.nodeConfig := by
  decide

/-! ## The payload by stage -/

namespace Payload

/-- The data of the pieces that are for a stage, decoded, in order. -/
def stageData (stage : String) (stages : List UserDataStage) : List String :=
  (stages.filter fun s => s.isStage stage).map fun s => decodeData s.data

theorem stageData_append (stage : String) (ss ts : List UserDataStage) :
    stageData stage (ss ++ ts) = stageData stage ss ++ stageData stage ts := by
  rw [stageData, List.filter_append, List.map_append]
  rfl

theorem stageData_of_isStage {stage : String} {s : UserDataStage} (h : s.isStage stage = true) :
    stageData stage [s] = [decodeData s.data] := by
  simp [stageData, h]

theorem stageData_of_not_isStage {stage : String} {s : UserDataStage}
    (h : s.isStage stage = false) : stageData stage [s] = [] := by
  simp [stageData, h]

theorem mem_stageData_iff {stage d : String} {stages : List UserDataStage} :
    d ∈ stageData stage stages ↔
      ∃ s ∈ stages, s.isStage stage = true ∧ decodeData s.data = d := by
  simp only [stageData, List.mem_map, List.mem_filter, and_assoc]

/-- One more piece goes to the stage it is for and to no other. -/
theorem add_eq (p : Payload) (s : UserDataStage) :
    p.add s =
      { preBootstrap := p.preBootstrap ++ stageData UserDataStage.preBootstrap [s]
        postBootstrap := p.postBootstrap ++ stageData UserDataStage.postBootstrap [s]
        nodeConfigYaml :=
          (stageData UserDataStage.nodeConfig [s]).foldl appendDocument p.nodeConfigYaml } := by
  rw [add]
  -- The stages are tried in this order and the first match takes the piece, so each match
  -- has to rule out the stages that were not tried.
  cases pre : s.isStage UserDataStage.preBootstrap with
  | true =>
    have post := isStage_of_ne foldCase_preBootstrap_ne_postBootstrap pre
    have doc := isStage_of_ne foldCase_preBootstrap_ne_nodeConfig pre
    rw [stageData_of_isStage pre, stageData_of_not_isStage post, stageData_of_not_isStage doc]
    simp
  | false =>
    rw [stageData_of_not_isStage pre]
    cases post : s.isStage UserDataStage.postBootstrap with
    | true =>
      have doc := isStage_of_ne foldCase_postBootstrap_ne_nodeConfig post
      rw [stageData_of_isStage post, stageData_of_not_isStage doc]
      simp
    | false =>
      rw [stageData_of_not_isStage post]
      cases doc : s.isStage UserDataStage.nodeConfig with
      | true =>
        rw [stageData_of_isStage doc]
        simp
      | false =>
        rw [stageData_of_not_isStage doc]
        simp

/-- **A payload is the data of its three stages**, each read on its own. -/
theorem ofStages_eq (stages : List UserDataStage) :
    ofStages stages =
      { preBootstrap := stageData UserDataStage.preBootstrap stages
        postBootstrap := stageData UserDataStage.postBootstrap stages
        nodeConfigYaml :=
          (stageData UserDataStage.nodeConfig stages).foldl appendDocument "" } := by
  induction stages using List.reverseRecOn with
  | nil => rfl
  | append_singleton ss s ih =>
    have snoc : ofStages (ss ++ [s]) = (ofStages ss).add s := by
      rw [ofStages, List.foldl_append]
      rfl
    rw [snoc, ih, add_eq, stageData_append, stageData_append, stageData_append,
      List.foldl_append]

/-! ## Joined documents -/

/-- What was joined so far stays in front. -/
theorem isPrefix_appendDocument (documents document : String) :
    documents.toList <+: (appendDocument documents document).toList := by
  rw [appendDocument]
  split
  · rename_i empty
    rw [empty]
    exact List.nil_prefix
  · split
    · rw [String.toList_append, String.toList_append, List.append_assoc]
      exact List.prefix_append _ _
    · rw [String.toList_append, String.toList_append, String.toList_append, List.append_assoc,
        List.append_assoc]
      exact List.prefix_append _ _

/-- The new document stands at the end. -/
theorem isSuffix_appendDocument (documents document : String) :
    document.toList <:+ (appendDocument documents document).toList := by
  rw [appendDocument]
  split
  · exact List.suffix_rfl
  · split
    · rw [String.toList_append]
      exact List.suffix_append _ _
    · rw [String.toList_append]
      exact List.suffix_append _ _

/-- Two documents join to nothing only when both are empty: the separator is written
after a text that is not. -/
theorem appendDocument_eq_empty_iff {documents document : String} :
    appendDocument documents document = "" ↔ documents = "" ∧ document = "" := by
  constructor
  · intro h
    have front := isPrefix_appendDocument documents document
    have back := isSuffix_appendDocument documents document
    rw [h] at front back
    exact ⟨String.toList_eq_nil_iff.1 (List.prefix_nil.1 front),
      String.toList_eq_nil_iff.1 (List.suffix_nil.1 back)⟩
  · rintro ⟨rfl, rfl⟩
    rfl

/-- **Documents join to nothing only when all of them are empty.** -/
theorem foldl_appendDocument_eq_empty_iff {docs : List String} {documents : String} :
    docs.foldl appendDocument documents = "" ↔ documents = "" ∧ ∀ d ∈ docs, d = "" := by
  induction docs generalizing documents with
  | nil => simp
  | cons d docs ih =>
    rw [List.foldl_cons, ih, appendDocument_eq_empty_iff, List.forall_mem_cons, and_assoc]

/-- **Every document stands in the joined text**, in one piece and as it was given. -/
theorem isInfix_foldl_appendDocument {docs : List String} {d : String} (documents : String)
    (h : d ∈ docs) : d.toList <:+: (docs.foldl appendDocument documents).toList := by
  induction docs using List.reverseRecOn with
  | nil => exact absurd h List.not_mem_nil
  | append_singleton docs e ih =>
    rw [List.foldl_append, List.foldl_cons, List.foldl_nil]
    rcases List.mem_append.1 h with earlier | last
    · exact (ih earlier).trans (isPrefix_appendDocument _ e).isInfix
    · rw [List.mem_singleton.1 last]
      exact (isSuffix_appendDocument _ e).isInfix

end Payload

end WorkerGroup.Bootstrap
