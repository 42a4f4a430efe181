/-
All names of a pass have one root.

The names of the resources, and the `Name` tag that a console shows for a scaling group, are
made from one text, the prefix that was taken down when the pass started. The tags are made
from the group as it is now: an edit that renames the group, moves it to another namespace
or to another cluster shows in the tags beside the `Name` tag, and on it alone it must not,
or a resource would be marked with a name it does not have.

The names are read off the prefix, which no operation writes. What is left is to find the
`Name` tag among the others: every other key starts with something that `Name` does not
(`key_ne_name_of_mem_tail`), whatever the cluster, the labels and the taints are called.
-/
import WorkerGroup.Fixture
import WorkerGroup.Proofs.Pass.Fixed
import WorkerGroup.Proofs.Text.Pieces

set_option autoImplicit false

namespace WorkerGroup

/-! ## The `Name` tag -/

namespace Tag

open WorkerGroup.Text

variable {g : InstanceGroup} {resourcePrefix : String} {autoscaler : Bool}
  {labels : List (String × String)}

/-- Only the first tag of a scaling group has the key `Name`. -/
theorem key_ne_name_of_mem_tail {tag : Tag}
    (h : tag ∈ (ofScalingGroup g resourcePrefix autoscaler labels).tail) : tag.key ≠ "Name" := by
  rw [ofScalingGroup, ownership, List.cons_append, List.tail_cons, List.mem_append] at h
  rcases h with owner | template
  · simp only [List.mem_cons, List.not_mem_nil, or_false] at owner
    rcases owner with rfl | rfl | rfl | rfl
    · simp
    · simp
    · simp
    · exact append_ne_of_not_isPrefixOf (by decide) g.configuration.clusterName
  · by_cases on : autoscaler = true
    -- Keys are built from a fixed start, so what follows it need not be looked at.
    · rw [if_pos on, List.mem_append, List.mem_append, discovery] at template
      rcases template with (found | label) | taint
      · simp only [List.mem_cons, List.not_mem_nil, or_false] at found
        rcases found with rfl | rfl
        · decide
        · exact append_ne_of_not_isPrefixOf (by decide) g.configuration.clusterName
      · obtain ⟨l, -, rfl⟩ := List.mem_map.1 label
        exact append_ne_of_not_isPrefixOf (by decide) l.1
      · obtain ⟨t, -, rfl⟩ := List.mem_map.1 taint
        exact append_ne_of_not_isPrefixOf (by decide) t.key
    · rw [if_neg on] at template
      cases template

/-- **A scaling group has one `Name` tag**, and it says the prefix. -/
theorem filter_name_ofScalingGroup :
    (ofScalingGroup g resourcePrefix autoscaler labels).filter (fun tag => tag.key = "Name") =
      [⟨"Name", resourcePrefix⟩] := by
  have others : (ofScalingGroup g resourcePrefix autoscaler labels).tail.filter
      (fun tag => tag.key = "Name") = [] := by
    rw [List.filter_eq_nil_iff]
    intro tag h
    rw [decide_eq_true_iff]
    exact key_ne_name_of_mem_tail h
  calc (ofScalingGroup g resourcePrefix autoscaler labels).filter (fun tag => tag.key = "Name")
      = ⟨"Name", resourcePrefix⟩ :: (ofScalingGroup g resourcePrefix autoscaler labels).tail.filter
          (fun tag => tag.key = "Name") := List.filter_cons_of_pos rfl
    _ = [⟨"Name", resourcePrefix⟩] := by rw [others]

end Tag

/-! ## The prefix of a group -/

/-- The prefix of a group, with the namespace it is in when it names none or an empty one. -/
theorem ResourceNames.prefixOf_eq (g : InstanceGroup) :
    prefixOf g =
      g.spec.eks.configuration.clusterName ++ "-" ++
        (if g.metadata.namespaceName.getD "" = "" then "default"
          else g.metadata.namespaceName.getD "") ++ "-" ++ g.metadata.name.getD "" := by
  have namespaceName : g.namespaceName =
      if g.metadata.namespaceName.getD "" = "" then "default"
        else g.metadata.namespaceName.getD "" := by
    rw [InstanceGroup.namespaceName]
    cases g.metadata.namespaceName with
    | none => rfl
    | some given => rfl
  rw [prefixOf, namespaceName]
  rfl

/-! ## In a pass -/

namespace Pass

/-- Every name that a pass gives out is made from one text. -/
structure NamedAfter (root : String) (p : Pass) : Prop where
  resourcePrefix : p.resourcePrefix = root
  scalingGroupName : p.scalingGroupName = root
  launchTemplateName : p.launchTemplateName = root
  roleName : p.roleName = String.ofList (root.toList.take 64)
  launchConfigurationName : ∀ t, p.launchConfigurationName t = root ++ "-" ++ t.stamp
  /-- The tags that are answered have one `Name` among them. -/
  nameTag : ∀ v, ∃ tags, (p.step (.ask .scalingGroupTags) v).result = .ok (.tags tags) ∧
    tags.filter (fun tag => tag.key = "Name") = [⟨"Name", root⟩]

theorem namedAfter_resourcePrefix (p : Pass) : p.NamedAfter p.resourcePrefix where
  resourcePrefix := rfl
  scalingGroupName := rfl
  launchTemplateName := rfl
  roleName := rfl
  launchConfigurationName _ := rfl
  nameTag _ := ⟨p.scalingGroupTags, rfl, Tag.filter_name_ofScalingGroup⟩

/-- **The names of a pass stay those it started with.** At every moment of a run and at its
end, whatever was edited and whatever the sink refused, all names are made from cluster,
namespace and name of the group that was handed in, with hyphens between them: the prefix,
the scaling group, the launch template and the `Name` tag are that text, the role is its
first 64 characters, and a launch configuration is that text and the second it is made. -/
theorem names_stay_rooted {g : InstanceGroup} {settings : Settings} {v : Verdict} {p : Pass}
    (h : start g settings v = .ok p) (ts : List Turn) :
    let given := g.metadata.namespaceName.getD ""
    let namespaceName := if given = "" then "default" else given
    let root := g.spec.eks.configuration.clusterName ++ "-" ++ namespaceName ++ "-" ++
      g.metadata.name.getD ""
    (∀ m ∈ p.moments ts, m.pass.NamedAfter root) ∧ (p.after ts).NamedAfter root := by
  intro given namespaceName root
  -- The prefix is all that is asked of a pass, and it is in the part no step changes.
  have rooted : ∀ q : Pass, q.fixedPart = p.fixedPart → q.NamedAfter root := by
    intro q fixed
    have own : q.resourcePrefix = ResourceNames.prefixOf g :=
      congrArg Prod.fst (fixed.trans (fixedPart_start h))
    have spelled : q.resourcePrefix = root := own.trans (ResourceNames.prefixOf_eq g)
    rw [← spelled]
    exact namedAfter_resourcePrefix q
  have fixed := fixedPart_after p ts
  exact ⟨fun m hm => rooted m.pass (fixed.1 m hm), rooted (p.after ts) fixed.2⟩

/-- A group that names no namespace is renamed, moved and put into another cluster, between
states that the sink refuses; its autoscaler is on, so it has tags for a taint as well. -/
theorem names_stay_rooted_after_renaming :
    let scaled := Fixture.anyGroup.annotate Annotations.autoscalerKey "true"
    let g := Fixture.taint "Name" none "NoSchedule"
      { scaled with metadata := { scaled.metadata with namespaceName := none } }
    let p := ((prepare g {}).recordState .init).edit stamp
    let down : Verdict := .error (.unavailable "down")
    let ts : List Turn :=
      [{ operation := .setState .ready, verdict := down },
       { operation := .editGroup fun _ => Fixture.cluster "test" (Fixture.group "apps" "other") },
       { operation := .discoverTransition, verdict := down }]
    start g {} (.ok ()) = .ok p ∧ (∀ m ∈ p.moments ts, m.pass.NamedAfter "prod-default-workers-a") ∧
      (p.after ts).NamedAfter "prod-default-workers-a" ∧
      (p.after ts).group.groupName = ⟨"apps", "other"⟩ := by
  intro scaled g p down ts
  have started : start g {} (.ok ()) = .ok p := rfl
  obtain ⟨during, after⟩ := names_stay_rooted started ts
  exact ⟨started, during, after, rfl⟩

end Pass

end WorkerGroup
