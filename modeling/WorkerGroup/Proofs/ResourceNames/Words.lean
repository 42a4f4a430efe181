/-
Which groups share their resource names.

All names of a group's resources start from one text, its cluster, namespace and name with
hyphens between them, and those three may have hyphens of their own. So the text says the
words of the three in order and does not say which of them a word belongs to: the groups
that share their names are exactly those made of the same words in the same order
(`prefixOf_eq_iff`). Two different groups can be (`groups_sharing_names`), and then their
words are divided up differently; groups whose clusters have equally many words, and whose
namespaces have, are told apart (`identity_eq_of_prefixOf_eq`).

The name of the role is cut off, so it tells less: as much of the prefix as fits.
-/
import WorkerGroup.Fixture
import WorkerGroup.Proofs.Pass.Fixed
import WorkerGroup.Proofs.Text.Pieces

set_option autoImplicit false

namespace WorkerGroup.ResourceNames

/-! ## The words of a group -/

/-- The words of a text: what stands between its hyphens. -/
def words (s : String) : List String :=
  Text.pieces '-' s

/-- What tells a group from every other: its cluster, its namespace and its name. -/
def identity (g : InstanceGroup) : String × String × String :=
  (g.configuration.clusterName, g.namespaceName, g.name)

/-- The words of a group's cluster, namespace and name, in this order. -/
def identityWords (g : InstanceGroup) : List String :=
  words g.configuration.clusterName ++ words g.namespaceName ++ words g.name

/-- Two groups with equally many words in their clusters, and in their namespaces. -/
structure EquallyDivided (g g' : InstanceGroup) : Prop where
  cluster : (words g.configuration.clusterName).length = (words g'.configuration.clusterName).length
  namespaceName : (words g.namespaceName).length = (words g'.namespaceName).length

/-! ## The prefix -/

theorem words_prefixOf (g : InstanceGroup) : words (prefixOf g) = identityWords g := by
  rw [prefixOf, resourcePrefix, words, Text.pieces_append rfl, Text.pieces_append rfl]
  rfl

/-- **Groups share their prefix exactly when they are made of the same words.** -/
theorem prefixOf_eq_iff {g g' : InstanceGroup} :
    prefixOf g = prefixOf g' ↔ identityWords g = identityWords g' := by
  rw [← words_prefixOf, ← words_prefixOf]
  exact Text.pieces_inj.symm

/-- **Equally divided groups with one prefix are one group** as far as names go. -/
theorem identity_eq_of_prefixOf_eq {g g' : InstanceGroup} (divided : EquallyDivided g g')
    (h : prefixOf g = prefixOf g') : identity g = identity g' := by
  rw [prefixOf_eq_iff, identityWords, identityWords, List.append_assoc, List.append_assoc] at h
  obtain ⟨cluster, rest⟩ := List.append_inj h divided.cluster
  obtain ⟨namespaceName, name⟩ := List.append_inj rest divided.namespaceName
  rw [identity, identity, Text.pieces_inj.1 cluster, Text.pieces_inj.1 namespaceName,
    Text.pieces_inj.1 name]

/-! ## The name of the role -/

/-- The name of the role tells prefixes apart as far as it goes. -/
theorem roleName_eq_iff {a b : String} :
    roleName a = roleName b ↔
      a.toList.take maxRoleNameLength = b.toList.take maxRoleNameLength :=
  String.ofList_inj

/-- What comes after as much as fits is not in the name of the role. -/
theorem roleName_append {a : String} (h : maxRoleNameLength ≤ a.toList.length) (b : String) :
    roleName (a ++ b) = roleName a := by
  rw [roleName_eq_iff, String.toList_append, List.take_append_of_le_length h]

/-- Prefixes that fit into the name of a role are told apart by it. -/
theorem roleName_inj_of_length_le {a b : String} (ha : a.toList.length ≤ maxRoleNameLength)
    (hb : b.toList.length ≤ maxRoleNameLength) : roleName a = roleName b ↔ a = b := by
  rw [roleName_eq_iff, List.take_of_length_le ha, List.take_of_length_le hb, String.toList_inj]

/-! ## In passes -/

/-- **Resource names tell groups apart as far as their words do.** At any time in passes over
two groups, whatever was done in them:

- the prefix, and with it the names of the scaling group and of the launch template, are
  the same exactly when cluster, namespace and name of the two groups are the same words
  in the same order;
- the names of the roles are the same exactly when the prefixes begin with the same 64
  characters;
- so groups that differ in cluster, namespace or name, but have equally many words in their
  clusters and in their namespaces, have different prefixes, scaling groups and launch
  templates, and different roles too when neither prefix is longer than 64 characters. -/
theorem names_shared_iff_words_shared {g g' : InstanceGroup} {settings settings' : Settings}
    {v v' : Pass.Verdict} {p p' : Pass} (h : Pass.start g settings v = .ok p)
    (h' : Pass.start g' settings' v' = .ok p') (ts ts' : List Pass.Turn) :
    let q := p.after ts
    let q' := p'.after ts'
    (q.resourcePrefix = q'.resourcePrefix ↔ identityWords g = identityWords g') ∧
    (q.scalingGroupName = q'.scalingGroupName ↔ identityWords g = identityWords g') ∧
    (q.launchTemplateName = q'.launchTemplateName ↔ identityWords g = identityWords g') ∧
    (q.roleName = q'.roleName ↔
      q.resourcePrefix.toList.take 64 = q'.resourcePrefix.toList.take 64) ∧
    (identity g ≠ identity g' → EquallyDivided g g' →
      q.resourcePrefix ≠ q'.resourcePrefix ∧ q.scalingGroupName ≠ q'.scalingGroupName ∧
      q.launchTemplateName ≠ q'.launchTemplateName ∧
      (q.resourcePrefix.toList.length ≤ 64 → q'.resourcePrefix.toList.length ≤ 64 →
        q.roleName ≠ q'.roleName)) := by
  intro q q'
  have own : q.resourcePrefix = prefixOf g := Pass.resourcePrefix_after h ts
  have own' : q'.resourcePrefix = prefixOf g' := Pass.resourcePrefix_after h' ts'
  have shared : q.resourcePrefix = q'.resourcePrefix ↔ identityWords g = identityWords g' := by
    rw [own, own', prefixOf_eq_iff]
  -- Scaling group and launch template carry the prefix as it is.
  refine ⟨shared, shared, shared, roleName_eq_iff, fun apart divided => ?_⟩
  have different : q.resourcePrefix ≠ q'.resourcePrefix := by
    intro same
    rw [own, own'] at same
    exact apart (identity_eq_of_prefixOf_eq divided same)
  exact ⟨different, different, different, fun fits fits' same =>
    different ((roleName_inj_of_length_le fits fits').1 same)⟩

/-- Two groups of one cluster and one namespace: even after an edit that gives the one the
name of the other, their passes have different names for everything. -/
theorem names_kept_apart_after_renaming :
    let g := Fixture.cluster "prod-eu" (Fixture.group "kube-system" "workers-a")
    let g' := Fixture.cluster "prod-eu" (Fixture.group "kube-system" "workers-b")
    let p := ((Pass.prepare g {}).recordState .init).edit Pass.stamp
    let p' := ((Pass.prepare g' {}).recordState .init).edit Pass.stamp
    let q := p.after [{ operation := .editGroup fun _ => g' }]
    Pass.start g {} (.ok ()) = .ok p ∧ Pass.start g' {} (.ok ()) = .ok p' ∧
      q.resourcePrefix ≠ p'.resourcePrefix ∧ q.scalingGroupName ≠ p'.scalingGroupName ∧
      q.launchTemplateName ≠ p'.launchTemplateName ∧ q.roleName ≠ p'.roleName := by
  intro g g' p p' q
  have started : Pass.start g {} (.ok ()) = .ok p := rfl
  have started' : Pass.start g' {} (.ok ()) = .ok p' := rfl
  obtain ⟨-, -, -, -, apart⟩ := names_shared_iff_words_shared started started'
    [{ operation := .editGroup fun _ => g' }] []
  obtain ⟨different, scalingGroup, template, role⟩ := apart (by decide) ⟨by decide, by decide⟩
  exact ⟨started, started', different, scalingGroup, template, role (by decide) (by decide)⟩

/-! ## Names that are shared -/

/-- A text that Kubernetes and EKS take as a name: not empty, and of lowercase letters,
digits and hyphens. -/
def IsName (s : String) : Prop :=
  s ≠ "" ∧ ∀ c ∈ s.toList, c.isLower ∨ c.isDigit ∨ c = '-'

instance (s : String) : Decidable (IsName s) :=
  haveI := List.decidableBAll (fun c : Char => c.isLower ∨ c.isDigit ∨ c = '-') s.toList
  inferInstanceAs (Decidable (_ ∧ _))

/-- A group whose cluster, namespace and name are such texts. -/
structure WellNamed (g : InstanceGroup) : Prop where
  cluster : IsName g.configuration.clusterName
  namespaceName : IsName g.namespaceName
  name : IsName g.name

/-- **Different groups can share all their names**: the word `eu` ends the cluster of one and
begins the namespace of the other, and the prefix of both is `prod-eu-apps-workers`. And
groups whose prefixes differ can share the role, when they differ too far back. -/
theorem groups_sharing_names :
    let g := Fixture.cluster "prod" (Fixture.group "eu-apps" "workers")
    let g' := Fixture.cluster "prod-eu" (Fixture.group "apps" "workers")
    let long := "workers-with-local-disks-for-the-nightly-batch-jobs-of-zone-"
    let a := Fixture.cluster "prod" (Fixture.group "apps" (long ++ "a"))
    let b := Fixture.cluster "prod" (Fixture.group "apps" (long ++ "b"))
    (WellNamed g ∧ WellNamed g' ∧ identity g ≠ identity g' ∧
      ∃ p p', Pass.start g {} (.ok ()) = .ok p ∧ Pass.start g' {} (.ok ()) = .ok p' ∧
        p.resourcePrefix = p'.resourcePrefix ∧ p.scalingGroupName = p'.scalingGroupName ∧
        p.launchTemplateName = p'.launchTemplateName ∧ p.roleName = p'.roleName) ∧
    (WellNamed a ∧ WellNamed b ∧ identity a ≠ identity b ∧
      ∃ p p', Pass.start a {} (.ok ()) = .ok p ∧ Pass.start b {} (.ok ()) = .ok p' ∧
        p.resourcePrefix ≠ p'.resourcePrefix ∧ p.roleName = p'.roleName) := by
  intro g g' long a b
  have shared : prefixOf g = prefixOf g' := by decide
  have full : maxRoleNameLength ≤ ("prod-apps-" ++ long).toList.length := by decide
  have cut : roleName (prefixOf a) = roleName (prefixOf b) := by
    have ends_in_a : prefixOf a = "prod-apps-" ++ long ++ "a" := rfl
    have ends_in_b : prefixOf b = "prod-apps-" ++ long ++ "b" := rfl
    rw [ends_in_a, ends_in_b, roleName_append full, roleName_append full]
  refine ⟨⟨⟨by decide, by decide, by decide⟩, ⟨by decide, by decide, by decide⟩, by decide,
    _, _, rfl, rfl, shared, shared, shared, congrArg roleName shared⟩,
    ⟨by decide, by decide, by decide⟩, ⟨by decide, by decide, by decide⟩, by decide,
    _, _, rfl, rfl, by decide, cut⟩

end WorkerGroup.ResourceNames
