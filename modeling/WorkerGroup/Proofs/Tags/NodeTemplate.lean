/-
The node template on a scaling group is what its nodes register.

The autoscaler that scales a group up from no nodes has no node to look at. It reads the
labels and taints of the nodes to come off the tags of the scaling group, while the nodes
themselves register with what their bootstrap parameters say. The two reach their places
on different paths and in different spellings: the tags are made from the group, and a
taint without a value is written there with an empty one, in front of the colon; the
parameters are made in one of two shapes, and only the script has kubelet arguments, in
which such a taint has no equals sign.

That they agree comes down to both shapes having the same labels and taints
(`nodeLabels_resolve`, `nodeTaints_resolve`), and to kubelet arguments, where there are
any, being those of the very same (`kubeletExtraArgs_resolve`).
-/
import WorkerGroup.Fixture
import WorkerGroup.Proofs.Bootstrap.Shape

set_option autoImplicit false

namespace WorkerGroup

/-! ## What the parameters register -/

namespace Bootstrap

variable (g : InstanceGroup) (family : OsFamily) (inputs : Inputs)

theorem nodeLabels_resolve : (resolve g family inputs).nodeLabels = nodeLabels g := by
  cases h : followedContract family (Payload.ofStages g.configuration.userData) <;>
    simp only [resolve, h, sharedParameters]

theorem nodeTaints_resolve : (resolve g family inputs).nodeTaints = g.configuration.taints := by
  cases h : followedContract family (Payload.ofStages g.configuration.userData) <;>
    simp only [resolve, h, sharedParameters]

/-- Kubelet arguments are there for a script, and for nothing else; they are those of the
labels and taints beside them. -/
theorem kubeletExtraArgs_resolve
    (h : (resolve g family inputs).kubeletExtraArgs ≠ "" ∨
      (resolve g family inputs).nodeConfigYaml = none) :
    (resolve g family inputs).kubeletExtraArgs =
      kubeletArguments (resolve g family inputs).nodeLabels
        (resolve g family inputs).nodeTaints := by
  rcases script_or_document g family inputs with script | document
  · exact script.kubeletExtraArgs
  · obtain ⟨doc, hdoc, -⟩ := document.nodeConfigYaml
    rcases h with some_arguments | no_document
    · exact absurd document.kubeletExtraArgs some_arguments
    · rw [hdoc] at no_document
      cases no_document

end Bootstrap

/-! ## What the tags say -/

namespace Tag

/-- The tags for what nodes with some bootstrap parameters register: one for every label, in
the order of the keys, and then one for every taint, in order. -/
def nodeTemplate (r : Bootstrap.Parameters) : List Tag :=
  r.nodeLabels.entries.map (fun l =>
      ⟨"k8s.io/cluster-autoscaler/node-template/label/" ++ l.1, l.2⟩) ++
    r.nodeTaints.map fun t =>
      ⟨"k8s.io/cluster-autoscaler/node-template/taint/" ++ t.key,
        t.value.getD "" ++ ":" ++ t.effect⟩

variable (g : InstanceGroup) (resourcePrefix : String)

/-- Under the autoscaler the tags for labels and taints come after the others. -/
theorem ofScalingGroup_of_autoscaler (r : Bootstrap.Parameters)
    (taints : r.nodeTaints = g.configuration.taints) :
    ofScalingGroup g resourcePrefix true r.nodeLabels.entries =
      (ownership g resourcePrefix ++ discovery g.configuration.clusterName) ++ nodeTemplate r := by
  rw [ofScalingGroup, if_pos rfl, nodeTemplate, taints, List.append_assoc, List.append_assoc]
  rfl

theorem ofScalingGroup_of_no_autoscaler (labels : List (String × String)) :
    ofScalingGroup g resourcePrefix false labels = ownership g resourcePrefix := by
  rw [ofScalingGroup, if_neg Bool.false_ne_true, List.append_nil]

end Tag

/-! ## In a pass -/

namespace Pass

/-- The tags of a pass are made for the labels and taints of its own parameters. -/
theorem scalingGroupTags_eq (p : Pass) :
    p.scalingGroupTags =
      Tag.ofScalingGroup p.group p.resourcePrefix (Annotations.autoscaler p.group.annotations)
        p.userData.nodeLabels.entries := by
  rw [scalingGroupTags, userData, Bootstrap.nodeLabels_resolve]

/-- **The autoscaler is told what nodes register.** At any time after the start of a pass,
whatever was done before and whichever of tags and bootstrap parameters is asked for first:

- with the autoscaler on, the tags after the first seven are those of the labels and of the
  taints in the parameters, and nothing else; the seven say whose the scaling group is and
  let the autoscaler find it;
- with it off, the five that say whose the scaling group is are all there are;
- the kubelet arguments, if there are any, are those of the same labels and taints, in the form
  the kubelet takes them, and there are none only for a node configuration document or with
  nothing to register. -/
theorem node_template_is_registered {g : InstanceGroup} {settings : Settings} {v : Verdict}
    {p : Pass} (h : start g settings v = .ok p) (ts : List Turn) (w w' : Verdict) :
    let q := p.after ts
    ∃ (tags : List Tag) (r : Bootstrap.Parameters),
      (q.run [⟨.ask .scalingGroupTags, w⟩, ⟨.ask .userData, w'⟩]).map Reply.result =
        [.ok (.tags tags), .ok (.parameters r)] ∧
      (q.run [⟨.ask .userData, w'⟩, ⟨.ask .scalingGroupTags, w⟩]).map Reply.result =
        [.ok (.parameters r), .ok (.tags tags)] ∧
      (Annotations.autoscaler q.group.annotations = true →
        tags.take 7 = Tag.ownership q.group (ResourceNames.prefixOf g) ++
          Tag.discovery q.group.configuration.clusterName ∧
        tags.drop 7 = Tag.nodeTemplate r) ∧
      (Annotations.autoscaler q.group.annotations = false →
        tags = Tag.ownership q.group (ResourceNames.prefixOf g) ∧ tags.length = 5) ∧
      (r.kubeletExtraArgs ≠ "" ∨ r.nodeConfigYaml = none →
        r.kubeletExtraArgs = Bootstrap.kubeletArguments r.nodeLabels r.nodeTaints ∧
        r.kubeletExtraArgs = Bootstrap.rendering r.nodeLabels r.nodeTaints) := by
  intro q
  have fixed : q.resourcePrefix = ResourceNames.prefixOf g := resourcePrefix_after h ts
  refine ⟨q.scalingGroupTags, q.userData, rfl, rfl, fun on => ?_, fun off => ?_, fun some => ?_⟩
  · have taints : q.userData.nodeTaints = q.group.configuration.taints :=
      Bootstrap.nodeTaints_resolve q.group q.osFamily q.bootstrapInputs
    rw [scalingGroupTags_eq, on, fixed, Tag.ofScalingGroup_of_autoscaler _ _ _ taints]
    exact ⟨List.take_left' rfl, List.drop_left' rfl⟩
  · rw [scalingGroupTags_eq, off, fixed, Tag.ofScalingGroup_of_no_autoscaler]
    exact ⟨rfl, rfl⟩
  · have arguments := Bootstrap.kubeletExtraArgs_resolve q.group q.osFamily q.bootstrapInputs some
    exact ⟨arguments, arguments.trans (Bootstrap.kubeletArguments_eq_rendering _ _)⟩

/-- A group with a taint that has no value, put under the autoscaler by an edit in the middle
of its pass: its tags are those of what its nodes register from then on. -/
theorem node_template_after_edit :
    let g := Fixture.taint "dedicated" none "NoSchedule" (Fixture.group "apps" "workers")
    let p := ((prepare g {}).recordState .init).edit stamp
    let ts : List Turn :=
      [{ operation := .ask .userData },
       { operation := .editGroup fun g =>
          Fixture.label "team" "data" (g.annotate Annotations.autoscalerKey " True ") }]
    let q := p.after ts
    start g {} (.ok ()) = .ok p ∧ Annotations.autoscaler q.group.annotations = true ∧
      ∃ (tags : List Tag) (r : Bootstrap.Parameters),
        (q.run [{ operation := .ask .scalingGroupTags }, { operation := .ask .userData }]).map
          Reply.result = [.ok (.tags tags), .ok (.parameters r)] ∧
        tags.drop 7 = Tag.nodeTemplate r := by
  intro g p ts q
  have started : start g {} (.ok ()) = .ok p := rfl
  have on : Annotations.autoscaler q.group.annotations = true := by decide
  obtain ⟨tags, r, asked, -, agrees, -, -⟩ :=
    node_template_is_registered started ts (.ok ()) (.ok ())
  exact ⟨started, on, tags, r, asked, (agrees on).2⟩

end Pass

end WorkerGroup
