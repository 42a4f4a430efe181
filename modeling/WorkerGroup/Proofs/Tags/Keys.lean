/-
When the keys of a scaling group's tags are distinct.

Of two tags with one key the cloud keeps one. Nothing in the way tags are made excludes that:
the keys are put together from fixed starts and from names that are free, and one of the starts
is the beginning of three others. So the keys that are for the autoscaler all begin alike, and
what matters is what stands behind that beginning (`autoscalerEndings`): a word, the name of
the cluster, and the names of labels and of taints, each behind a word of its own. Among these
the name of the cluster alone is free from its first character on, so it can be any of the
others; a label is never a taint; and taints with one key are two tags with one key.

The five keys that say whose a scaling group is begin with something else, so none of this
touches them (`ownership_apart`).
-/
import WorkerGroup.Fixture
import WorkerGroup.Proofs.Text.Pieces
import WorkerGroup.Tags
import Mathlib.Data.List.Nodup

set_option autoImplicit false

namespace WorkerGroup.Tag

open WorkerGroup.Text

variable {g : InstanceGroup} {resourcePrefix : String} {labels : List (String × String)}

/-! ## The keys -/

/-- What stands behind the common start of the keys that are for the autoscaler. -/
def autoscalerEndings (g : InstanceGroup) (labels : List (String × String)) : List String :=
  "enabled" :: g.configuration.clusterName ::
    (labels.map (fun l => "node-template/label/" ++ l.1) ++
      g.configuration.taints.map fun t => "node-template/taint/" ++ t.key)

theorem keys_off : (ofScalingGroup g resourcePrefix false labels).map (·.key) =
    (ownership g resourcePrefix).map (·.key) := by
  rw [ofScalingGroup, if_neg Bool.false_ne_true, List.append_nil]

theorem keys_on : (ofScalingGroup g resourcePrefix true labels).map (·.key) =
    (ownership g resourcePrefix).map (·.key) ++
      (autoscalerEndings g labels).map ("k8s.io/cluster-autoscaler/" ++ ·) := by
  rw [ofScalingGroup, if_pos rfl, List.map_append]
  simp only [autoscalerEndings, discovery, List.map_append, List.map_cons, List.map_map,
    List.cons_append, List.nil_append]
  rfl

/-- The keys that say whose a scaling group is are five. -/
theorem nodup_ownership : ((ownership g resourcePrefix).map (·.key)).Nodup := by
  have cluster {text : String} (h : ¬ "kubernetes.io/cluster/".toList <+: text.toList) :
      text ≠ clusterKey g.configuration.clusterName :=
    (append_ne_of_not_isPrefixOf h _).symm
  simp only [ownership, List.map_cons, List.map_nil, List.nodup_cons, List.mem_cons,
    List.not_mem_nil, or_false, not_or]
  exact ⟨⟨by decide, by decide, by decide, cluster (by decide)⟩,
    ⟨by decide, by decide, cluster (by decide)⟩, ⟨by decide, cluster (by decide)⟩,
    cluster (by decide), not_false, List.nodup_nil⟩

/-- **None of the five starts like a key for the autoscaler.** -/
theorem ownership_apart {tag : Tag} (h : tag ∈ ownership g resourcePrefix) (ending : String) :
    tag.key ≠ "k8s.io/cluster-autoscaler/" ++ ending := by
  have apart (text : String) (h : ¬ "k8s.io/cluster-autoscaler/".toList <+: text.toList) :
      text ≠ "k8s.io/cluster-autoscaler/" ++ ending :=
    (append_ne_of_not_isPrefixOf h ending).symm
  simp only [ownership, List.mem_cons, List.not_mem_nil, or_false] at h
  rcases h with rfl | rfl | rfl | rfl | rfl
  · exact apart "Name" (by decide)
  · exact apart "instancegroups.keikoproj.io/ClusterName" (by decide)
  · exact apart "instancegroups.keikoproj.io/InstanceGroup" (by decide)
  · exact apart "instancegroups.keikoproj.io/Namespace" (by decide)
  · exact append_ne_append (by decide) (by decide) _ _

theorem label_ne_taint (label taint : String) :
    "node-template/label/" ++ label ≠ "node-template/taint/" ++ taint :=
  append_ne_append (by decide) (by decide) label taint

/-- **The endings are distinct** unless two taints have one key or the name of the cluster is
one of the other endings. -/
theorem nodup_autoscalerEndings_iff (distinct : (labels.map (·.1)).Nodup) :
    (autoscalerEndings g labels).Nodup ↔
      (g.configuration.taints.map (·.key)).Nodup ∧ g.configuration.clusterName ≠ "enabled" ∧
        (∀ l ∈ labels, g.configuration.clusterName ≠ "node-template/label/" ++ l.1) ∧
        ∀ t ∈ g.configuration.taints,
          g.configuration.clusterName ≠ "node-template/taint/" ++ t.key := by
  have labelled : (labels.map fun l => "node-template/label/" ++ l.1).Nodup := by
    have parts := distinct.map (append_injective "node-template/label/")
    rwa [List.map_map] at parts
  have tainted : (g.configuration.taints.map fun t => "node-template/taint/" ++ t.key).Nodup ↔
      (g.configuration.taints.map (·.key)).Nodup := by
    have parts := List.nodup_map_iff (l := g.configuration.taints.map (·.key))
      (append_injective "node-template/taint/")
    rwa [List.map_map] at parts
  have apart : ∀ a ∈ labels.map (fun l => "node-template/label/" ++ l.1),
      ∀ b ∈ g.configuration.taints.map (fun t => "node-template/taint/" ++ t.key), a ≠ b := by
    intro a ha b hb
    obtain ⟨l, -, rfl⟩ := List.mem_map.1 ha
    obtain ⟨t, -, rfl⟩ := List.mem_map.1 hb
    exact label_ne_taint l.1 t.key
  have word : "enabled" ∉ labels.map (fun l => "node-template/label/" ++ l.1) ++
      g.configuration.taints.map fun t => "node-template/taint/" ++ t.key := by
    intro listed
    rcases List.mem_append.1 listed with label | taint
    · obtain ⟨l, -, same⟩ := List.mem_map.1 label
      exact append_ne_of_not_isPrefixOf (by decide) l.1 same
    · obtain ⟨t, -, same⟩ := List.mem_map.1 taint
      exact append_ne_of_not_isPrefixOf (by decide) t.key same
  -- What is left of the comparisons is those with the name of the cluster.
  have cluster : g.configuration.clusterName ∉ labels.map (fun l => "node-template/label/" ++ l.1) ++
      (g.configuration.taints.map fun t => "node-template/taint/" ++ t.key) ↔
      (∀ l ∈ labels, g.configuration.clusterName ≠ "node-template/label/" ++ l.1) ∧
        ∀ t ∈ g.configuration.taints,
          g.configuration.clusterName ≠ "node-template/taint/" ++ t.key := by
    simp only [List.mem_append, List.mem_map, not_or, not_exists, not_and, ne_eq, eq_comm]
  rw [autoscalerEndings, List.nodup_cons, List.mem_cons, not_or, List.nodup_cons, cluster,
    List.nodup_append, tainted, and_iff_left word, and_iff_right labelled, and_iff_left apart,
    ← ne_eq, ne_comm]
  constructor
  · rintro ⟨enabled, ⟨label, taint⟩, keys⟩
    exact ⟨keys, enabled, label, taint⟩
  · rintro ⟨keys, enabled, label, taint⟩
    exact ⟨enabled, ⟨label, taint⟩, keys⟩

/-! ## The tags of a scaling group -/

/-- **When the keys of a scaling group's tags are distinct.** Without the autoscaler they always
are. With it they are unless two taints have one key or the name of the cluster is `enabled` or
what stands for one of the labels or taints. Each of the five tags that say whose the scaling
group is has its key to itself in any case, and no label has the key of a taint. -/
theorem keys_nodup_iff (g : InstanceGroup) (resourcePrefix : String)
    (labels : List (String × String)) (distinct : (labels.map (·.1)).Nodup) :
    let off := ofScalingGroup g resourcePrefix false labels
    let on := ofScalingGroup g resourcePrefix true labels
    (off.map (·.key)).Nodup ∧
      ((on.map (·.key)).Nodup ↔
        (g.configuration.taints.map (·.key)).Nodup ∧ g.configuration.clusterName ≠ "enabled" ∧
          (∀ l ∈ labels, g.configuration.clusterName ≠ "node-template/label/" ++ l.1) ∧
          ∀ t ∈ g.configuration.taints,
            g.configuration.clusterName ≠ "node-template/taint/" ++ t.key) ∧
      (∀ tag ∈ ownership g resourcePrefix, (on.map (·.key)).count tag.key = 1) ∧
      ∀ l ∈ labels, ∀ t ∈ g.configuration.taints, (ofLabel l).key ≠ (ofTaint t).key := by
  intro off on
  have apart : ∀ k ∈ (ownership g resourcePrefix).map (·.key),
      ∀ k' ∈ (autoscalerEndings g labels).map ("k8s.io/cluster-autoscaler/" ++ ·), k ≠ k' := by
    intro k hk k' hk'
    obtain ⟨tag, owner, rfl⟩ := List.mem_map.1 hk
    obtain ⟨ending, -, rfl⟩ := List.mem_map.1 hk'
    exact ownership_apart owner ending
  refine ⟨?_, ?_, fun tag owner => ?_, fun l _ t _ => ?_⟩
  · rw [keys_off]
    exact nodup_ownership
  · rw [keys_on, List.nodup_append, and_iff_right nodup_ownership, and_iff_left apart,
      List.nodup_map_iff (append_injective _), nodup_autoscalerEndings_iff distinct]
  · have listed : tag.key ∈ (ownership g resourcePrefix).map (·.key) := List.mem_map_of_mem owner
    have behind : tag.key ∉ (autoscalerEndings g labels).map ("k8s.io/cluster-autoscaler/" ++ ·) :=
      fun again => apart _ listed _ again rfl
    rw [keys_on, List.count_append, List.count_eq_one_of_mem nodup_ownership listed,
      List.count_eq_zero.2 behind]
  · exact append_ne_append (by decide) (by decide) l.1 t.key

/-- Two taints with one key make two tags with one key; with one of them gone, the cluster may
still be named like the other. -/
theorem keys_nodup_iff_of_dedicated :
    let one := Fixture.taint "dedicated" (some "gpu") "NoSchedule" Fixture.anyGroup
    let two := Fixture.taint "dedicated" none "NoExecute" one
    let odd := Fixture.cluster "node-template/taint/dedicated" one
    let labels := [("team", "data"), ("enabled", "")]
    let keys (g : InstanceGroup) (autoscaler : Bool) :=
      (ofScalingGroup g "root" autoscaler labels).map (·.key)
    (labels.map (·.1)).Nodup ∧ (keys one true).Nodup ∧ ¬ (keys two true).Nodup ∧
      (keys two false).Nodup ∧ ¬ (keys odd true).Nodup ∧ (keys odd true).count "Name" = 1 := by
  intro one two odd labels keys
  have distinct : (labels.map (·.1)).Nodup := by decide
  obtain ⟨-, onOne, -, -⟩ := keys_nodup_iff one "root" labels distinct
  obtain ⟨offTwo, onTwo, -, -⟩ := keys_nodup_iff two "root" labels distinct
  obtain ⟨-, onOdd, once, -⟩ := keys_nodup_iff odd "root" labels distinct
  refine ⟨distinct, onOne.2 (by decide), fun h => ?_, offTwo, fun h => ?_,
    once ⟨"Name", "root"⟩ List.mem_cons_self⟩
  · exact absurd (onTwo.1 h).1 (by decide)
  · exact (onOdd.1 h).2.2.2 _ List.mem_cons_self rfl

end WorkerGroup.Tag
