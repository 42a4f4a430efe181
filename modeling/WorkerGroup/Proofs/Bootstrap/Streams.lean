/-
A payload is settled by its streams.

The pieces for one stage, in the order in which they were declared, are a stream, and a list
of pieces is the three streams laid into one another, with pieces for no stage strewn in. The
payload reads the streams apart again, so nothing else about the list can show in it
(`ofStages_eq_of_streams`).

What else there is to a list is said by `Rearranged`: where pieces for different stages stand
among each other, how a tag and a name are written, and what is for no stage. These are all
the ways in which two lists with the same streams can differ (`rearranged_iff`). For that every
list is brought into one form, stage after stage: its first piece is carried past the pieces
of the stages before its own (`Rearranged.past`), and then the rest is brought into that form.
-/
import WorkerGroup.Proofs.Bootstrap.Stages
import WorkerGroup.Proofs.OsFamily.Resolution

set_option autoImplicit false

namespace WorkerGroup.Bootstrap.Payload

open WorkerGroup.Text

variable {s t : UserDataStage} {ss ts : List UserDataStage} {stage : String}

/-! ## Streams -/

/-- The stages a payload has a place for. -/
def stageNames : List String :=
  ["PreBootstrap", "PostBootstrap", "NodeConfigYaml"]

/-- The data of the pieces for a stage, as they were written, in order. -/
def stream (stage : String) (stages : List UserDataStage) : List String :=
  (stages.filter fun s => SameLetters s.stage stage).map (·.data)

theorem stageData_eq_map_stream (stage : String) (stages : List UserDataStage) :
    stageData stage stages = (stream stage stages).map decodeData := by
  have same : ∀ s : UserDataStage, s.isStage stage = decide (SameLetters s.stage stage) := by
    intro s
    rw [Bool.eq_iff_iff, UserDataStage.isStage_iff, decide_eq_true_iff]
  unfold stageData stream
  simp only [List.map_map, Function.comp_def, same]

theorem foldCase_stageNames_inj :
    ∀ a ∈ stageNames, ∀ b ∈ stageNames, foldCase a = foldCase b → a = b := by
  decide

/-- The stage a piece is for, if a payload has a place for it. -/
def stageOf? (s : UserDataStage) : Option String :=
  stageNames.find? fun stage => SameLetters s.stage stage

theorem stageOf?_eq_some_iff :
    stageOf? s = some stage ↔ stage ∈ stageNames ∧ SameLetters s.stage stage := by
  constructor
  · intro found
    have letters := List.find?_some (p := fun stage => decide (SameLetters s.stage stage)) found
    exact ⟨List.mem_of_find?_eq_some found, of_decide_eq_true letters⟩
  · rintro ⟨named, letters⟩
    cases found : stageOf? s with
    | none => exact absurd (decide_eq_true letters) (List.find?_eq_none.1 found stage named)
    | some other =>
      have named' : other ∈ stageNames := List.mem_of_find?_eq_some found
      have letters' := List.find?_some (p := fun stage => decide (SameLetters s.stage stage)) found
      rw [decide_eq_true_iff, ← foldCase_eq_foldCase_iff] at letters'
      rw [← foldCase_eq_foldCase_iff] at letters
      rw [foldCase_stageNames_inj other named' stage named (letters'.symm.trans letters)]

theorem stageOf?_mk (named : stage ∈ stageNames) (data : String) :
    stageOf? { stage, data } = some stage :=
  stageOf?_eq_some_iff.2 ⟨named, foldCase_eq_foldCase_iff.1 rfl⟩

/-- A piece is in the stream of the stage it is for and in no other. -/
theorem stream_cons (named : stage ∈ stageNames) :
    stream stage (s :: ss) =
      if stageOf? s = some stage then s.data :: stream stage ss else stream stage ss := by
  have tagged : stageOf? s = some stage ↔ SameLetters s.stage stage := by
    rw [stageOf?_eq_some_iff, and_iff_right named]
  unfold stream
  by_cases letters : SameLetters s.stage stage
  · rw [if_pos (tagged.2 letters), List.filter_cons, if_pos (decide_eq_true letters), List.map_cons]
  · rw [if_neg (mt tagged.1 letters), List.filter_cons, if_neg (by rwa [decide_eq_true_iff])]

/-! ## Rearrangements -/

/-- Two lists of pieces differ in nothing but where pieces for different stages stand among
each other, in names and in the case of tags, and in pieces for no stage. -/
inductive Rearranged : List UserDataStage → List UserDataStage → Prop
  | nil : Rearranged [] []
  | cons {s t : UserDataStage} {ss ts : List UserDataStage} (stage : stageOf? s = stageOf? t)
      (data : s.data = t.data) (rest : Rearranged ss ts) : Rearranged (s :: ss) (t :: ts)
  | swap {s t : UserDataStage} (apart : stageOf? s ≠ stageOf? t) (rest : List UserDataStage) :
      Rearranged (s :: t :: rest) (t :: s :: rest)
  | insert {s : UserDataStage} (unknown : stageOf? s = none) (rest : List UserDataStage) :
      Rearranged rest (s :: rest)
  | remove {s : UserDataStage} (unknown : stageOf? s = none) (rest : List UserDataStage) :
      Rearranged (s :: rest) rest
  | trans {ss ts us : List UserDataStage} (left : Rearranged ss ts) (right : Rearranged ts us) :
      Rearranged ss us

namespace Rearranged

theorem refl (ss : List UserDataStage) : Rearranged ss ss := by
  induction ss with
  | nil => exact .nil
  | cons s ss ih => exact .cons rfl rfl ih

theorem symm (h : Rearranged ss ts) : Rearranged ts ss := by
  induction h with
  | nil => exact .nil
  | cons stage data _ ih => exact .cons stage.symm data.symm ih
  | swap apart rest => exact .swap apart.symm rest
  | insert unknown rest => exact .remove unknown rest
  | remove unknown rest => exact .insert unknown rest
  | trans _ _ left right => exact right.trans left

/-- **Rearranging keeps the streams.** -/
theorem stream_eq (h : Rearranged ss ts) :
    ∀ stage ∈ stageNames, stream stage ss = stream stage ts := by
  intro stage named
  induction h with
  | nil => rfl
  | cons same data _ ih => rw [stream_cons named, stream_cons named, same, data, ih]
  | @swap s t apart rest =>
    simp only [stream_cons named]
    by_cases first : stageOf? s = some stage
    · have second : stageOf? t ≠ some stage := fun h => apart (first.trans h.symm)
      rw [if_pos first, if_neg second, if_neg second, if_pos first]
    · rw [if_neg first, if_neg first]
  | insert unknown rest => rw [stream_cons named, unknown, if_neg nofun]
  | remove unknown rest => rw [stream_cons named, unknown, if_neg nofun]
  | trans _ _ left right => exact left.trans right

theorem append_left (h : Rearranged ss ts) (front : List UserDataStage) :
    Rearranged (front ++ ss) (front ++ ts) := by
  induction front with
  | nil => exact h
  | cons s front ih => exact .cons rfl rfl ih

/-- A piece is carried past pieces for other stages. -/
theorem past {others : List UserDataStage} (apart : ∀ t ∈ others, stageOf? s ≠ stageOf? t)
    (rest : List UserDataStage) : Rearranged (s :: (others ++ rest)) (others ++ s :: rest) := by
  induction others with
  | nil => exact .refl _
  | cons t others ih =>
    obtain ⟨first, later⟩ := List.forall_mem_cons.1 apart
    exact .trans (.swap first _) (.cons rfl rfl (ih later))

end Rearranged

/-! ## Stage after stage -/

/-- The pieces of the stream of a stage, all written alike. -/
def block (stage : String) (stages : List UserDataStage) : List UserDataStage :=
  (stream stage stages).map fun data => { stage, data }

theorem stageOf?_of_mem_block (named : stage ∈ stageNames) (h : t ∈ block stage ss) :
    stageOf? t = some stage := by
  obtain ⟨data, -, rfl⟩ := List.mem_map.1 h
  exact stageOf?_mk named data

theorem block_cons_of_ne (named : stage ∈ stageNames) (other : stageOf? s ≠ some stage) :
    block stage (s :: ss) = block stage ss := by
  rw [block, stream_cons named, if_neg other, block]

theorem block_cons_of_eq (h : stageOf? s = some stage) :
    block stage (s :: ss) = { stage, data := s.data } :: block stage ss := by
  rw [block, stream_cons (stageOf?_eq_some_iff.1 h).1, if_pos h, List.map_cons, block]

/-- A piece for none of the stages does not show. -/
theorem flatMap_block_cons {names : List String} (named : ∀ n ∈ names, n ∈ stageNames)
    (other : ∀ n ∈ names, stageOf? s ≠ some n) :
    names.flatMap (block · (s :: ss)) = names.flatMap (block · ss) := by
  apply List.flatMap_congr
  intro n listed
  exact block_cons_of_ne (named n listed) (other n listed)

/-- A piece in front of the blocks goes into its own. -/
theorem rearranged_into_block {names : List String} (named : ∀ n ∈ names, n ∈ stageNames)
    (distinct : names.Nodup) (h : stageOf? s = some stage) (listed : stage ∈ names) :
    Rearranged (s :: names.flatMap (block · ss)) (names.flatMap (block · (s :: ss))) := by
  induction names with
  | nil => exact absurd listed List.not_mem_nil
  | cons n names ih =>
    obtain ⟨first, others⟩ := List.forall_mem_cons.1 named
    obtain ⟨fresh, distinct⟩ := List.nodup_cons.1 distinct
    rw [List.flatMap_cons, List.flatMap_cons]
    by_cases own : n = stage
    · subst own
      have behind : ∀ m ∈ names, stageOf? s ≠ some m := by
        intro m hm same
        rw [h, Option.some.injEq] at same
        exact fresh (same ▸ hm)
      rw [flatMap_block_cons others behind, block_cons_of_eq h, List.cons_append]
      exact .cons (h.trans (stageOf?_mk first s.data).symm) rfl (.refl _)
    · have later : stage ∈ names := (List.mem_cons.1 listed).resolve_left (Ne.symm own)
      have other : stageOf? s ≠ some n := by
        rw [h, ne_eq, Option.some.injEq]
        exact Ne.symm own
      rw [block_cons_of_ne first other]
      apply Rearranged.trans (.past _ _)
      · exact (ih others distinct later).append_left _
      · intro t ht
        rwa [stageOf?_of_mem_block first ht]

/-- **Every list can be rearranged so that one stage comes after the other.** -/
theorem rearranged_blocks (ss : List UserDataStage) :
    Rearranged ss (stageNames.flatMap (block · ss)) := by
  induction ss with
  | nil => exact .nil
  | cons s ss ih =>
    apply Rearranged.trans (.cons rfl rfl ih)
    cases found : stageOf? s with
    | none =>
      rw [flatMap_block_cons (fun _ => id) fun n _ => by rw [found]; nofun]
      exact .remove found _
    | some stage =>
      exact rearranged_into_block (fun _ => id) (by decide) found (stageOf?_eq_some_iff.1 found).1

/-- **Lists with the same streams are rearrangements of each other**, and no others are. -/
theorem rearranged_iff :
    Rearranged ss ts ↔ ∀ stage ∈ stageNames, stream stage ss = stream stage ts := by
  refine ⟨Rearranged.stream_eq, fun same => ?_⟩
  have form : stageNames.flatMap (block · ss) = stageNames.flatMap (block · ts) := by
    apply List.flatMap_congr
    intro stage named
    rw [block, block, same stage named]
  exact (rearranged_blocks ss).trans (form ▸ (rearranged_blocks ts).symm)

/-! ## The payload -/

theorem ofStages_eq_of_streams (same : ∀ stage ∈ stageNames, stream stage ss = stream stage ts) :
    ofStages ss = ofStages ts := by
  have pre := same UserDataStage.preBootstrap (by decide)
  have post := same UserDataStage.postBootstrap (by decide)
  have docs := same UserDataStage.nodeConfig (by decide)
  simp only [ofStages_eq, stageData_eq_map_stream, pre, post, docs]

/-- **A payload is settled by the streams of the list it is made of.** Lists with the same data
for each stage, in the same order, have the same payload, and these are just the lists that can
be rearranged into each other: by moving a piece past one for another stage, by writing a name
or the case of a tag in another way, and by putting in or leaving out what is for no stage. The
commands of a stage are its whole stream, decoded piece by piece. -/
theorem ofStages_settled_by_streams (ss : List UserDataStage) :
    (∀ ts, (∀ stage ∈ ["PreBootstrap", "PostBootstrap", "NodeConfigYaml"],
        stream stage ss = stream stage ts) → ofStages ss = ofStages ts ∧ Rearranged ss ts) ∧
      (∀ ts, Rearranged ss ts → ofStages ss = ofStages ts) ∧
      (ofStages ss).preBootstrap = (stream "PreBootstrap" ss).map decodeData ∧
      (ofStages ss).postBootstrap = (stream "PostBootstrap" ss).map decodeData := by
  refine ⟨fun ts same => ⟨ofStages_eq_of_streams same, rearranged_iff.2 same⟩,
    fun ts h => ofStages_eq_of_streams h.stream_eq, ?_, ?_⟩
  · rw [ofStages_eq]
    exact stageData_eq_map_stream _ ss
  · rw [ofStages_eq]
    exact stageData_eq_map_stream _ ss

/-- The document has moved to the front, between the two commands stands a piece for no stage,
and the tags are written in other cases. -/
theorem ofStages_settled_by_streams_of_two :
    let ss : List UserDataStage :=
      [⟨"a", "PreBootstrap", "one"⟩, ⟨"b", "NodeConfigYaml", "k: v"⟩, ⟨"c", "prebootstrap", "dHdv"⟩]
    let ts : List UserDataStage :=
      [⟨"d", "nodeconfigYAML", "k: v"⟩, ⟨"c", "PREBOOTSTRAP", "one"⟩, ⟨"b", "Bootstrap", "one"⟩,
        ⟨"a", "PreBootstrap", "dHdv"⟩]
    (∀ stage ∈ ["PreBootstrap", "PostBootstrap", "NodeConfigYaml"],
        stream stage ss = stream stage ts) ∧
      ofStages ss = ofStages ts ∧ Rearranged ss ts ∧
      (ofStages ts).preBootstrap = ["one", "two"] ∧ (ofStages ts).postBootstrap = [] := by
  intro ss ts
  have same : ∀ stage ∈ ["PreBootstrap", "PostBootstrap", "NodeConfigYaml"],
      stream stage ss = stream stage ts := by decide
  obtain ⟨settled, -, -, -⟩ := ofStages_settled_by_streams ss
  obtain ⟨-, -, pre, post⟩ := ofStages_settled_by_streams ts
  obtain ⟨payload, rearranged⟩ := settled ts same
  refine ⟨same, payload, rearranged, ?_, ?_⟩
  · rw [pre]
    decide
  · rw [post]
    decide

end WorkerGroup.Bootstrap.Payload
