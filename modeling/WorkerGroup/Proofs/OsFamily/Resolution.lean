/-
The OS family of a group, decided.

Two things are looked at, and the first that says something decides: whether a stage is
tagged for a node configuration document, and what the annotation of the family says. A tag
and an annotation are compared by their letters, in whatever case, and an annotation names
one family at most, since no two families share a name in any case
(`eq_of_sameLetters_name`).

So of the stages it matters whether one is tagged, and of the annotations what the one
under the family's key says when its case is ignored. `family_decided` has both: what every
input resolves to, and that inputs which agree on those two points resolve alike.
-/
import WorkerGroup.OsFamily.Resolution
import WorkerGroup.Proofs.Text.AsciiCase

set_option autoImplicit false

namespace WorkerGroup

open WorkerGroup.Text

/-! ## Stages -/

theorem UserDataStage.isStage_iff {s : UserDataStage} {stage : String} :
    s.isStage stage = true ↔ SameLetters s.stage stage := by
  rw [isStage, sameIgnoringCase_iff]

/-- Some stage, wherever it stands, is tagged for a node configuration document. -/
def NodeConfigTagged (stages : List UserDataStage) : Prop :=
  ∃ s ∈ stages, SameLetters s.stage "NodeConfigYaml"

instance (stages : List UserDataStage) : Decidable (NodeConfigTagged stages) :=
  inferInstanceAs (Decidable (∃ s ∈ stages, SameLetters s.stage "NodeConfigYaml"))

theorem hasNodeConfigStage_iff {stages : List UserDataStage} :
    hasNodeConfigStage stages = true ↔ NodeConfigTagged stages := by
  simp only [hasNodeConfigStage, List.any_eq_true, UserDataStage.isStage_iff]
  rfl

namespace OsFamily

/-! ## Names -/

theorem mem_all (family : OsFamily) : family ∈ all := by
  cases family <;> decide

/-- No two families share a name, in whatever case. -/
theorem foldCase_name_inj :
    ∀ a ∈ all, ∀ b ∈ all, foldCase a.name = foldCase b.name → a = b := by
  decide

/-- **A text names one family at most.** -/
theorem eq_of_sameLetters_name {a b : OsFamily} {v : String} (ha : SameLetters a.name v)
    (hb : SameLetters b.name v) : a = b := by
  rw [← foldCase_eq_foldCase_iff] at ha hb
  exact foldCase_name_inj a (mem_all a) b (mem_all b) (ha.trans hb.symm)

theorem sameLetters_of_ofText? {v : String} {family : OsFamily} (h : ofText? v = some family) :
    SameLetters family.name v := by
  rw [ofText?] at h
  have found := List.find?_some h
  exact sameIgnoringCase_iff.1 found

/-- The family a text is meant for is the one whose name has its letters. -/
theorem ofText?_eq_some_iff {v : String} {family : OsFamily} :
    ofText? v = some family ↔ SameLetters family.name v := by
  refine ⟨sameLetters_of_ofText?, fun h => ?_⟩
  cases found : ofText? v with
  | none =>
    have unmatched := List.find?_eq_none.1 found family (mem_all family)
    exact absurd (sameIgnoringCase_iff.2 h) unmatched
  | some other => rw [eq_of_sameLetters_name (sameLetters_of_ofText? found) h]

theorem ofText?_eq_none_iff {v : String} :
    ofText? v = none ↔ ∀ family ∈ all, ¬ SameLetters family.name v := by
  rw [ofText?, List.find?_eq_none]
  simp only [sameIgnoringCase_iff]

/-- A text that may be there is meant for the same family in any case. -/
theorem bind_ofText?_congr {v w : Option String} (h : v.map foldCase = w.map foldCase) :
    v.bind ofText? = w.bind ofText? := by
  cases v with
  | none => rw [Option.map_eq_none_iff.1 h.symm]
  | some a =>
    obtain ⟨b, rfl, folded⟩ := Option.map_eq_some_iff.1 h.symm
    rw [Option.bind_some, Option.bind_some, ofText?, ofText?]
    simp only [sameIgnoringCase, folded]

/-! ## Resolutions -/

section

variable {annotations : Table String} {stages : List UserDataStage}

theorem resolve_of_tagged (h : NodeConfigTagged stages) :
    resolve annotations stages = { family := .amazonLinux2023 } := by
  rw [resolve, if_pos (hasNodeConfigStage_iff.2 h)]

/-! Without a tag the annotation decides, as far as it names a family. -/

theorem resolve_of_unwritten (untagged : ¬ NodeConfigTagged stages)
    (unwritten : annotations.find? Annotations.osFamilyKey = none) :
    resolve annotations stages = { family := .amazonLinux2 } := by
  rw [resolve, if_neg (mt hasNodeConfigStage_iff.1 untagged), Annotations.osFamily?, unwritten]
  rfl

theorem resolve_of_named {v : String} {family : OsFamily} (untagged : ¬ NodeConfigTagged stages)
    (written : annotations.find? Annotations.osFamilyKey = some v)
    (named : ofText? v = some family) : resolve annotations stages = { family } := by
  rw [resolve, if_neg (mt hasNodeConfigStage_iff.1 untagged), Annotations.osFamily?, written]
  simp only [named]

theorem resolve_of_unnamed {v : String} (untagged : ¬ NodeConfigTagged stages)
    (written : annotations.find? Annotations.osFamilyKey = some v) (unnamed : ofText? v = none) :
    resolve annotations stages = { family := .amazonLinux2, unsupported := some v } := by
  rw [resolve, if_neg (mt hasNodeConfigStage_iff.1 untagged), Annotations.osFamily?, written]
  simp only [unnamed, fallback]

/-- The family without what was reported on the way. -/
theorem family_resolve_of_not_tagged (untagged : ¬ NodeConfigTagged stages) :
    (resolve annotations stages).family =
      ((annotations.find? Annotations.osFamilyKey).bind ofText?).getD .amazonLinux2 := by
  rcases written : annotations.find? Annotations.osFamilyKey with _ | v
  · rw [resolve_of_unwritten untagged written]
    rfl
  · rw [Option.bind_some]
    rcases named : ofText? v with _ | family
    · rw [resolve_of_unnamed untagged written named, Option.getD_none]
    · rw [resolve_of_named untagged written named, Option.getD_some]

end

/-- **How the family of a group is decided.** For all annotations and stages:

- if some stage, at any place, is tagged for a node configuration document, the family is
  Amazon Linux 2023 and nothing is reported, whatever is annotated;
- if not, and a value is annotated, the family is the one whose name has the letters of the
  value, which is one family at most, and nothing is reported; if there is none the family is
  Amazon Linux 2 and the value is reported as it was written;
- if no value is annotated either, the family is Amazon Linux 2 and nothing is reported;
- so annotations and stages that agree on whether a stage is tagged, and on the value when
  its letters are made small, have the same family, whatever else they say. -/
theorem family_decided (annotations : Table String) (stages : List UserDataStage) :
    let r := resolve annotations stages
    let key := "instancemgr.keikoproj.io/os-family"
    (NodeConfigTagged stages → r = ⟨.amazonLinux2023, none⟩) ∧
    (¬ NodeConfigTagged stages → ∀ v, annotations.find? key = some v →
      (∀ family ∈ all, SameLetters family.name v →
        r = ⟨family, none⟩ ∧ ∀ other ∈ all, SameLetters other.name v → other = family) ∧
      ((∀ family ∈ all, ¬ SameLetters family.name v) → r = ⟨.amazonLinux2, some v⟩)) ∧
    (¬ NodeConfigTagged stages → annotations.find? key = none → r = ⟨.amazonLinux2, none⟩) ∧
    ∀ (annotations' : Table String) (stages' : List UserDataStage),
      (NodeConfigTagged stages ↔ NodeConfigTagged stages') →
      (annotations.find? key).map foldCase = (annotations'.find? key).map foldCase →
      (resolve annotations' stages').family = r.family := by
  intro r key
  refine ⟨resolve_of_tagged, fun untagged v written => ⟨fun family _ named => ⟨?_, ?_⟩, ?_⟩,
    resolve_of_unwritten, fun annotations' stages' tags values => ?_⟩
  · exact resolve_of_named untagged written (ofText?_eq_some_iff.2 named)
  · intro other _ again
    exact eq_of_sameLetters_name again named
  · intro unnamed
    exact resolve_of_unnamed untagged written (ofText?_eq_none_iff.2 unnamed)
  · by_cases tagged : NodeConfigTagged stages
    · have decided : r = _ := resolve_of_tagged tagged
      rw [decided, resolve_of_tagged (tags.1 tagged)]
    · have family : r.family = _ := family_resolve_of_not_tagged tagged
      rw [family, family_resolve_of_not_tagged (mt tags.2 tagged), Annotations.osFamilyKey,
        bind_ofText?_congr values]

/-- An annotation in mixed case beside another one, with a tagged stage behind an untagged one
and without it; and an annotation with a blank at its end, which names no family. -/
theorem family_decided_by_letters :
    let key := "instancemgr.keikoproj.io/os-family"
    let written : Table String :=
      .ofList [(key, "wINDOWS"), ("instancemgr.keikoproj.io/irsa-enabled", "true")]
    let padded : Table String := .ofList [(key, "windows ")]
    let script : UserDataStage := { name := "a", stage := "PreBootstrap", data := "date" }
    let document : UserDataStage := { name := "b", stage := "nodeCONFIGyaml" }
    NodeConfigTagged [script, document] ∧ ¬ NodeConfigTagged [script] ∧
      resolve written [script, document] = ⟨.amazonLinux2023, none⟩ ∧
      resolve written [script] = ⟨.windows, none⟩ ∧
      resolve padded [script] = ⟨.amazonLinux2, some "windows "⟩ ∧
      resolve ∅ [script] = ⟨.amazonLinux2, none⟩ ∧
      (resolve (.ofList [(key, "Windows")]) []).family = (resolve written [script]).family := by
  intro key written padded script document
  have tagged : NodeConfigTagged [script, document] := by decide
  have untagged : ¬ NodeConfigTagged [script] := by decide
  obtain ⟨stage, -, -, -⟩ := family_decided written [script, document]
  obtain ⟨-, named, -, alike⟩ := family_decided written [script]
  obtain ⟨-, unnamed, -, -⟩ := family_decided padded [script]
  obtain ⟨-, -, unwritten, -⟩ := family_decided ∅ [script]
  exact ⟨tagged, untagged, stage tagged,
    ((named untagged "wINDOWS" (by decide)).1 .windows (by decide) (by decide)).1,
    (unnamed untagged "windows " (by decide)).2 (by decide), unwritten untagged (by decide),
    alike (.ofList [(key, "Windows")]) [] (by decide) (by decide)⟩

end OsFamily

end WorkerGroup
