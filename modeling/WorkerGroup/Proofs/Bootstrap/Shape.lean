/-
The two shapes of bootstrap parameters.

A renderer is handed parameters in one of two shapes and has to know which: a script with
commands and arguments around it, or one node configuration document and nothing else.
Here it is shown that there is no third shape and no mixture (`script_or_document`), and
which inputs lead to which (`documentShape_resolve_iff`).

Two parts of the library look for a node configuration document, and not in the same way.
The family is settled by a *stage* tagged for one, whatever its data; the shape is settled
by the *text* all such stages join to, and falls back to the script when there is none. A
pass puts the two together, and there they agree: the document shape is the shape exactly
when some stage has a document that is not empty, and every such document stands in what
the renderer is handed.
-/
import WorkerGroup.Bootstrap.Parameters
import WorkerGroup.Proofs.Bootstrap.KubeletArguments
import WorkerGroup.Proofs.Bootstrap.Stages
import WorkerGroup.Proofs.Pass.FamilyCache

set_option autoImplicit false

namespace WorkerGroup.Bootstrap

/-! ## The shapes -/

/-- The script shape: what goes around the bootstrap script, and no document. -/
structure ScriptShape (g : InstanceGroup) (r : Parameters) : Prop where
  nodeConfigYaml : r.nodeConfigYaml = none
  preBootstrap : r.preBootstrap = (Payload.ofStages g.configuration.userData).preBootstrap
  postBootstrap : r.postBootstrap = (Payload.ofStages g.configuration.userData).postBootstrap
  arguments : r.arguments = g.configuration.bootstrapArguments
  kubeletExtraArgs : r.kubeletExtraArgs = kubeletArguments r.nodeLabels r.nodeTaints

theorem ScriptShape.kubeletExtraArgs_eq_rendering {g : InstanceGroup} {r : Parameters}
    (h : ScriptShape g r) : r.kubeletExtraArgs = rendering r.nodeLabels r.nodeTaints :=
  h.kubeletExtraArgs.trans (kubeletArguments_eq_rendering r.nodeLabels r.nodeTaints)

/-- The document shape: a document that is not empty, and nothing around a script. -/
structure DocumentShape (r : Parameters) : Prop where
  nodeConfigYaml : ∃ doc, r.nodeConfigYaml = some doc ∧ doc ≠ ""
  preBootstrap : r.preBootstrap = []
  postBootstrap : r.postBootstrap = []
  arguments : r.arguments = ""
  kubeletExtraArgs : r.kubeletExtraArgs = ""

/-- Some piece is tagged for a node configuration document, in whatever case, and stands
for a text that is not empty. -/
def CarriesDocument (stages : List UserDataStage) : Prop :=
  ∃ s ∈ stages, s.isStage UserDataStage.nodeConfig = true ∧ decodeData s.data ≠ ""

/-- The documents of a list of pieces join to some text exactly when one of them is one. -/
theorem nodeConfigYaml_ne_empty_iff {stages : List UserDataStage} :
    (Payload.ofStages stages).nodeConfigYaml ≠ "" ↔ CarriesDocument stages := by
  rw [Payload.ofStages_eq, ne_eq, Payload.foldl_appendDocument_eq_empty_iff]
  constructor
  · intro h
    have : ∃ d ∈ Payload.stageData UserDataStage.nodeConfig stages, d ≠ "" := by
      simpa using h
    obtain ⟨d, hd, nonempty⟩ := this
    obtain ⟨s, hs, stage, rfl⟩ := Payload.mem_stageData_iff.1 hd
    exact ⟨s, hs, stage, nonempty⟩
  · rintro ⟨s, hs, stage, nonempty⟩ ⟨-, empty⟩
    exact nonempty (empty _ (Payload.mem_stageData_iff.2 ⟨s, hs, stage, rfl⟩))

/-! ## Resolving to a shape -/

/-- The document contract is followed by the one family that has it, and only with a
document at hand. -/
theorem followedContract_eq_nodeConfig_iff {family : OsFamily} {payload : Payload} :
    followedContract family payload = .nodeConfig ↔
      family = .amazonLinux2023 ∧ payload.nodeConfigYaml ≠ "" := by
  rw [followedContract]
  split
  · rename_i empty
    simp [empty]
  · rename_i nonempty
    cases family <;> simp [OsFamily.contract, nonempty]

section

variable (g : InstanceGroup) (family : OsFamily) (inputs : Inputs)

theorem resolve_of_script
    (h : followedContract family (Payload.ofStages g.configuration.userData) = .script) :
    ScriptShape g (resolve g family inputs) := by
  rw [resolve]
  simp only [h]
  exact ⟨rfl, rfl, rfl, rfl, rfl⟩

/-- The document that is handed over is the joined one. -/
theorem nodeConfigYaml_resolve
    (h : followedContract family (Payload.ofStages g.configuration.userData) = .nodeConfig) :
    (resolve g family inputs).nodeConfigYaml =
      some (Payload.ofStages g.configuration.userData).nodeConfigYaml := by
  rw [resolve]
  simp only [h]

theorem resolve_of_nodeConfig
    (h : followedContract family (Payload.ofStages g.configuration.userData) = .nodeConfig) :
    DocumentShape (resolve g family inputs) := by
  have document := nodeConfigYaml_resolve g family inputs h
  refine ⟨⟨_, document, (followedContract_eq_nodeConfig_iff.1 h).2⟩, ?_, ?_, ?_, ?_⟩
  all_goals
    rw [resolve]
    simp only [h]
    rfl

/-- The shapes exclude each other: one has a document and the other has none. -/
theorem not_both_shapes {r : Parameters} : ¬ (ScriptShape g r ∧ DocumentShape r) := by
  rintro ⟨script, document⟩
  obtain ⟨doc, hdoc, -⟩ := document.nodeConfigYaml
  rw [script.nodeConfigYaml] at hdoc
  cases hdoc

theorem script_or_document :
    ScriptShape g (resolve g family inputs) ∨ DocumentShape (resolve g family inputs) := by
  cases h : followedContract family (Payload.ofStages g.configuration.userData) with
  | script => exact .inl (resolve_of_script g family inputs h)
  | nodeConfig => exact .inr (resolve_of_nodeConfig g family inputs h)

/-- **The document shape takes the family and a document.** -/
theorem documentShape_resolve_iff :
    DocumentShape (resolve g family inputs) ↔
      family = .amazonLinux2023 ∧ CarriesDocument g.configuration.userData := by
  rw [← nodeConfigYaml_ne_empty_iff, ← followedContract_eq_nodeConfig_iff]
  constructor
  · intro document
    cases h : followedContract family (Payload.ofStages g.configuration.userData) with
    | script => exact absurd ⟨resolve_of_script g family inputs h, document⟩ (not_both_shapes g)
    | nodeConfig => rfl
  · exact resolve_of_nodeConfig g family inputs

end

/-! ## In a pass -/

/-- A stage with a document settles the family, whatever the annotations say. -/
theorem family_ofGroup_of_carriesDocument {g : InstanceGroup}
    (h : CarriesDocument g.configuration.userData) :
    (OsFamily.ofGroup g).family = .amazonLinux2023 := by
  obtain ⟨s, hs, stage, -⟩ := h
  have found : hasNodeConfigStage g.configuration.userData = true :=
    List.any_eq_true.2 ⟨s, hs, stage⟩
  rw [OsFamily.ofGroup, OsFamily.resolve, if_pos found]

/-- In a pass whose kept family is fresh a document alone decides the shape. -/
theorem documentShape_userData_iff {p : Pass} (fresh : p.FamilyFresh) :
    DocumentShape p.userData ↔ CarriesDocument p.group.configuration.userData := by
  rw [Pass.userData, documentShape_resolve_iff, fresh.osFamily_eq]
  exact ⟨fun h => h.2, fun h => ⟨family_ofGroup_of_carriesDocument h, h⟩⟩

/-- Every document of the group stands in the one that is handed over. -/
theorem isInfix_userData {p : Pass} (fresh : p.FamilyFresh) {s : UserDataStage}
    (hs : s ∈ p.group.configuration.userData)
    (stage : s.isStage UserDataStage.nodeConfig = true) (nonempty : decodeData s.data ≠ "") :
    ∃ doc, p.userData.nodeConfigYaml = some doc ∧
      (decodeData s.data).toList <:+: doc.toList := by
  have carries : CarriesDocument p.group.configuration.userData := ⟨s, hs, stage, nonempty⟩
  have family : p.osFamily = .amazonLinux2023 :=
    fresh.osFamily_eq.trans (family_ofGroup_of_carriesDocument carries)
  have contract := followedContract_eq_nodeConfig_iff.2
    ⟨family, nodeConfigYaml_ne_empty_iff.2 carries⟩
  refine ⟨_, nodeConfigYaml_resolve p.group p.osFamily p.bootstrapInputs contract, ?_⟩
  rw [Payload.ofStages_eq]
  exact Payload.isInfix_foldl_appendDocument "" (Payload.mem_stageData_iff.2 ⟨s, hs, stage, rfl⟩)

/-- **Bootstrap parameters have one of two shapes, and a document is never dropped.**
Whatever the group, the family and the inputs, the parameters are a script or a document
and not both, and they are a document exactly for the family that takes one and a group
that carries one; a script has kubelet arguments, in the form the kubelet takes them, for the
labels and taints beside them. In a pass, at any time after its start, they are a document
exactly when the group carries one then, whatever its annotations say, and every document of
the group that is not empty stands in the one that is handed over. -/
theorem parameters_have_one_shape :
    (∀ (g : InstanceGroup) (family : OsFamily) (inputs : Inputs),
      let r := resolve g family inputs
      (ScriptShape g r ∨ DocumentShape r) ∧ ¬ (ScriptShape g r ∧ DocumentShape r) ∧
      (DocumentShape r ↔
        family = .amazonLinux2023 ∧ CarriesDocument g.configuration.userData) ∧
      (ScriptShape g r → r.kubeletExtraArgs = rendering r.nodeLabels r.nodeTaints)) ∧
    (∀ (g : InstanceGroup) (settings : Settings) (v : Pass.Verdict) (p : Pass),
      Pass.start g settings v = .ok p → ∀ (ts : List Pass.Turn) (w : Pass.Verdict),
      let q := p.after ts
      ∃ r, (q.step (.ask .userData) w).result = .ok (.parameters r) ∧
        (DocumentShape r ↔ CarriesDocument q.group.configuration.userData) ∧
        ∀ s ∈ q.group.configuration.userData, s.isStage UserDataStage.nodeConfig = true →
          decodeData s.data ≠ "" →
          ∃ doc, r.nodeConfigYaml = some doc ∧ (decodeData s.data).toList <:+: doc.toList) := by
  refine ⟨fun g family inputs => ?_, fun g settings v p started ts w => ?_⟩
  · exact ⟨script_or_document g family inputs, not_both_shapes g,
      documentShape_resolve_iff g family inputs, ScriptShape.kubeletExtraArgs_eq_rendering⟩
  · have fresh := (Pass.familyFresh_after started ts).2
    exact ⟨(p.after ts).userData, rfl, documentShape_userData_iff fresh,
      fun s hs stage nonempty => isInfix_userData fresh hs stage nonempty⟩

/-- A group that asks for Windows and carries a document under a tag in lower case: after
a run in which the family was kept, the parameters are a document. -/
theorem document_in_spite_of_annotation :
    let g := ((InstanceGroup.named "apps" "workers").annotate Annotations.osFamilyKey
      "windows").withConfiguration { userData := [⟨"cfg", "nodeconfigyaml", "kind: NodeConfig"⟩] }
    let p := ((Pass.prepare g {}).recordState .init).edit Pass.stamp
    let ts : List Pass.Turn := [{ operation := .ask .osFamily }, { operation := .setState .ready }]
    Pass.start g {} (.ok ()) = .ok p ∧
      ∃ r, ((p.after ts).step (.ask .userData) (.ok ())).result = .ok (.parameters r) ∧
        DocumentShape r := by
  intro g p ts
  have started : Pass.start g {} (.ok ()) = .ok p := rfl
  have carries : CarriesDocument (p.after ts).group.configuration.userData :=
    ⟨⟨"cfg", "nodeconfigyaml", "kind: NodeConfig"⟩, List.mem_singleton.2 rfl, by decide, by decide⟩
  obtain ⟨r, asked, shape, -⟩ := parameters_have_one_shape.2 g {} (.ok ()) p started ts (.ok ())
  exact ⟨started, r, asked, shape.2 carries⟩

end WorkerGroup.Bootstrap
