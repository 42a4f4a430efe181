/-
What a run prints agrees with itself.

A run prints a report and, if it was asked to, the state gauge. The report is put together from
many questions to one pass, and the gauge was told about the group twice, when the pass was
started and when its state was recorded; but there is one pass and one group behind all of it.
So the gauge shows one group in the very state of the report (`snapshot_finalGauge`), the names all
come from one prefix, and what the report says of the bootstrap parameters fits the family, the
arguments and the offerings it stands beside (`consistent_ofPass`). An object that holds such a
report agrees with itself in the same way (`Consistent.agrees`), and that is what is printed.

What decides is what the run loaded: the transition changes nothing but the status of the group,
so the annotations and the node configuration of the report's pass are those of the manifest.
-/
import WorkerGroup.Proofs.Bootstrap.Shape
import WorkerGroup.Proofs.CommandLine.Loading
import WorkerGroup.Proofs.Table.Entries

set_option autoImplicit false

namespace WorkerGroup

/-! ## The parts of bootstrap parameters that both shapes have -/

namespace Bootstrap

variable (g : InstanceGroup) (family : OsFamily) (inputs : Inputs)

theorem clusterIp_resolve :
    (resolve g family inputs).clusterIp = (sharedParameters g family inputs).clusterIp := by
  rw [resolve]
  cases followedContract family (Payload.ofStages g.configuration.userData) <;> rfl

theorem maxPods_resolve :
    (resolve g family inputs).maxPods = (sharedParameters g family inputs).maxPods := by
  rw [resolve]
  cases followedContract family (Payload.ofStages g.configuration.userData) <;> rfl

/-- The address of the name service is passed on to Windows nodes, unless that is disabled. -/
theorem clusterIp_resolve_eq_some_iff {ip : String} :
    (resolve g family inputs).clusterIp = some ip ↔
      family = .windows ∧ inputs.cluster.dnsClusterIp = some ip ∧
        inputs.disableWindowsClusterIp = false := by
  rw [clusterIp_resolve, sharedParameters]
  cases family <;> cases inputs.disableWindowsClusterIp <;> simp [OsFamily.isWindows]

/-- A document is handed over for the one family that takes one. -/
theorem family_of_nodeConfigYaml (h : (resolve g family inputs).nodeConfigYaml.isSome = true) :
    family = .amazonLinux2023 := by
  rcases script_or_document g family inputs with script | document
  · rw [script.nodeConfigYaml] at h
    cases h
  · exact ((documentShape_resolve_iff g family inputs).1 document).1

/-- The pod capacity is set when pods have a network of their own and the offering is known. -/
theorem maxPods_resolve_isSome_iff :
    (resolve g family inputs).maxPods.isSome = true ↔
      Annotations.customNetworking g.annotations = true ∧ inputs.offering.isSome = true := by
  rw [maxPods_resolve, sharedParameters]
  simp only [resolveMaxPods]
  cases inputs.offering with
  | none => simp
  | some o => cases Annotations.customNetworking g.annotations <;> simp

end Bootstrap

/-- An offering is found when there is one of the type. -/
theorem DiscoveredState.offering?_isSome_iff (d : DiscoveredState) (instanceType : String) :
    (d.offering? instanceType).isSome = true ↔
      ∃ o ∈ d.offerings, o.instanceType = instanceType := by
  rw [offering?, List.find?_isSome]
  simp only [beq_iff_eq]

namespace CommandLine

open Pass (prepare stamp)

/-! ## The report and the gauge -/

/-- A report whose parts agree with each other and with what the run was told and loaded. -/
structure Consistent (a : Arguments) (settings : Settings) (g : InstanceGroup)
    (offerings : List Offering) (r : Report) : Prop where
  scalingGroupName : r.scalingGroupName = r.resourcePrefix
  launchTemplateName : r.launchTemplateName = r.resourcePrefix
  firstTag : r.tags.head?.map Tag.value = some r.resourcePrefix
  roleName : r.roleName = String.ofList (r.resourcePrefix.toList.take 64)
  launchConfigurationName : ∀ t, a.timestamp = some t →
    r.launchConfigurationName = r.resourcePrefix ++ "-" ++ t.stamp
  /-- The address of the name service is the one that was given. -/
  clusterIp : ∀ ip, r.userData.clusterIp = some ip ↔
    r.osFamily = .windows ∧ a.dnsIp = some ip ∧ settings.disableWindowsClusterIp = false
  nodeConfigYaml : r.userData.nodeConfigYaml.isSome = true → r.osFamily = .amazonLinux2023
  maxPods : r.userData.maxPods.isSome = true ↔
    Annotations.customNetworking g.annotations = true ∧
      ∃ o ∈ offerings, o.instanceType = g.configuration.instanceType

section

variable (a : Arguments) (settings : Settings) (g : InstanceGroup) (offerings : List Offering)

/-- The transition leaves the pass alone but for the status of its group. -/
theorem pass_transition :
    ∃ state : ReconcileState, (transition a settings g offerings).pass =
      (loadedPass a settings g offerings).recordState state := by
  -- A refused group keeps the state the pass was started with.
  by_cases locked : g.isLocked = true
  · refine ⟨.init, ?_⟩
    rw [transition, Pass.transition_of_locked locked]
    rfl
  · refine ⟨(loadedPass a settings g offerings).initialState, ?_⟩
    rw [transition, Pass.transition_of_unlocked (Bool.not_eq_true _ ▸ locked)]
    rfl

/-- **The gauge shows one group, in the state of the report.** -/
theorem snapshot_finalGauge (t : Instant) :
    let r := Report.ofPass (transition a settings g offerings).pass t
    (finalGauge a settings g offerings).snapshot =
      (∅ : Table String).insert r.instanceGroup r.state.name := by
  by_cases locked : g.isLocked = true
  · rw [finalGauge, transition, Pass.transition_of_locked locked]
    rfl
  · -- The gauge was told twice, under one name, and shows what it was told last.
    rw [finalGauge, transition, Pass.transition_of_unlocked (Bool.not_eq_true _ ▸ locked)]
    exact Table.insert_insert _ _ _ _

/-- **The parts of a report agree with each other.** -/
theorem consistent_ofPass (now : Instant) :
    Consistent a settings g offerings
      (Report.ofPass (transition a settings g offerings).pass (a.timestamp.getD now)) := by
  obtain ⟨state, made⟩ := pass_transition a settings g offerings
  rw [made]
  exact
    { scalingGroupName := rfl
      launchTemplateName := rfl
      firstTag := rfl
      roleName := rfl
      launchConfigurationName := by
        intro t given
        rw [given]
        rfl
      clusterIp := fun ip => Bootstrap.clusterIp_resolve_eq_some_iff _ _ _
      nodeConfigYaml := Bootstrap.family_of_nodeConfigYaml _ _ _
      maxPods := by
        refine (Bootstrap.maxPods_resolve_isSome_iff _ _ _).trans (and_congr Iff.rfl ?_)
        exact DiscoveredState.offering?_isSome_iff _ _ }

end

/-! ## The printed object -/

/-- An object whose names all come from one root. -/
structure Rooted (a : Arguments) (root : String) (v : Json) : Prop where
  resourcePrefix : v.under "resourcePrefix" = [.str root]
  scalingGroupName : v.under "scalingGroupName" = [.str root]
  launchTemplateName : v.under "launchTemplateName" = [.str root]
  firstTag : ∃ key tags,
    v.under "tags" = [.arr (.obj [("key", .str key), ("value", .str root)] :: tags)]
  roleName : v.under "roleName" = [.str (String.ofList (root.toList.take 64))]
  launchConfigurationName : ∀ t, a.timestamp = some t →
    v.under "launchConfigurationName" = [.str (root ++ "-" ++ t.stamp)]

/-- An object of user data that fits a family, and what a run was told and has loaded. What is
not set is null. -/
structure FitsFamily (a : Arguments) (settings : Settings) (g : InstanceGroup)
    (offerings : List Offering) (family : String) (u : Json) : Prop where
  /-- The address of the name service is the one that was given. -/
  clusterIp : u.under "cluster_ip" =
    [if family = "windows" ∧ settings.disableWindowsClusterIp = false
      then a.dnsIp.elim .null .str else .null]
  nodeConfigYaml : u.under "node_config_yaml" = [.null] ∨
    family = "amazonlinux2023" ∧ ∃ document, u.under "node_config_yaml" = [.str document]
  maxPods : Annotations.customNetworking g.annotations = true →
    (∃ o ∈ offerings, o.instanceType = g.configuration.instanceType) →
      ∃ n : Int64, u.under "max_pods" = [.int n.toInt]
  noMaxPods : ¬ (Annotations.customNetworking g.annotations = true ∧
    ∃ o ∈ offerings, o.instanceType = g.configuration.instanceType) →
      u.under "max_pods" = [.null]

/-- The text of a gauge that shows one group: two lines that introduce it, and one line for each
state, which has the value one for the state that the group is in. -/
def gaugeText (group current : String) : String :=
  "# HELP instance_manager_instance_group_status Current reconcile state of an instance group.\n" ++
  "# TYPE instance_manager_instance_group_status gauge\n" ++
  String.join (ReconcileState.all.map fun s =>
    "instance_manager_instance_group_status\x7binstancegroup=\"" ++ group ++ "\",state=\"" ++
      s.name ++ "\"\x7d " ++ (if s.name = current then "1" else "0") ++ "\n")

/-- A gauge that shows one group is written so. -/
theorem render_of_snapshot {gauge : Collector} {group current : String}
    (h : gauge.snapshot = (∅ : Table String).insert group current) :
    gauge.render = gaugeText group current := by
  have entries : gauge.groups.entries = [(group, current)] := congrArg Table.entries h
  have text : gauge.render = Collector.header ++ Collector.samples group current := by
    simp only [Collector.render, entries, List.map_singleton, String.join_cons, String.join_nil,
      String.append_empty]
  have introduction : Collector.header =
      "# HELP instance_manager_instance_group_status Current reconcile state of an instance group.\n" ++
        "# TYPE instance_manager_instance_group_status gauge\n" := by
    simp [Collector.header, Collector.gauge]
  have name : Collector.gauge ++ "\x7binstancegroup=\"" =
      "instance_manager_instance_group_status\x7binstancegroup=\"" := by
    simp [Collector.gauge]
  have line (s : ReconcileState) : Collector.sample group s.name (s.name == current) =
      "instance_manager_instance_group_status\x7binstancegroup=\"" ++ group ++ "\",state=\"" ++
        s.name ++ "\"\x7d " ++ (if s.name = current then "1" else "0") ++ "\n" := by
    simp only [Collector.sample, name, beq_iff_eq]
  -- To rewrite with these would compare the texts of the gauge by their characters.
  have lines : Collector.samples group current = _ :=
    congrArg String.join (List.map_congr_left fun s _ => line s)
  exact text.trans (congrArg₂ (· ++ ·) introduction lines)

/-- A printed object that agrees with a gauge, with itself, and with what the run was told and
has loaded. -/
structure Agrees (a : Arguments) (settings : Settings) (g : InstanceGroup)
    (offerings : List Offering) (gauge : Collector) (v : Json) : Prop where
  gauge : ∃ group state, v.under "instanceGroup" = [.str group] ∧ v.under "state" = [.str state] ∧
    gauge.snapshot = (∅ : Table String).insert group state ∧ gauge.render = gaugeText group state
  names : ∃ root, Rooted a root v
  userData : ∃ family u, v.under "osFamily" = [.str family] ∧ v.under "userData" = [u] ∧
    FitsFamily a settings g offerings family u

section

variable {a : Arguments} {settings : Settings} {g : InstanceGroup} {offerings : List Offering}
  {r : Report} (consistent : Consistent a settings g offerings r)
include consistent

theorem Consistent.rooted {v : Json} (held : r.HeldBy v) : Rooted a r.resourcePrefix v where
  resourcePrefix := held.resourcePrefix
  scalingGroupName := by rw [held.scalingGroupName, consistent.scalingGroupName]
  launchTemplateName := by rw [held.launchTemplateName, consistent.launchTemplateName]
  firstTag := by
    have first := consistent.firstTag
    rw [held.tags]
    cases tags : r.tags with
    | nil =>
      rw [tags] at first
      cases first
    | cons tag tags' =>
      rw [tags] at first
      have value : tag.value = r.resourcePrefix := Option.some.inj first
      rw [List.map_cons, value]
      exact ⟨_, _, rfl⟩
  roleName := by rw [held.roleName, consistent.roleName]
  launchConfigurationName := by
    intro t given
    rw [held.launchConfigurationName, consistent.launchConfigurationName t given]

theorem Consistent.clusterIp_eq :
    r.userData.clusterIp =
      if r.osFamily.name = "windows" ∧ settings.disableWindowsClusterIp = false
      then a.dnsIp else none := by
  have windows : r.osFamily.name = "windows" ↔ r.osFamily = .windows := by
    cases r.osFamily <;> decide
  refine Option.ext fun ip => ?_
  rw [consistent.clusterIp, ← windows]
  by_cases passed : r.osFamily.name = "windows" ∧ settings.disableWindowsClusterIp = false
  · rw [if_pos passed]
    exact ⟨fun h => h.2.1, fun given => ⟨passed.1, given, passed.2⟩⟩
  · rw [if_neg passed]
    exact ⟨fun h => absurd ⟨h.1, h.2.2⟩ passed, nofun⟩

theorem Consistent.fitsFamily {u : Json} (held : r.userData.HeldBy u) :
    FitsFamily a settings g offerings r.osFamily.name u where
  clusterIp := by
    rw [held.clusterIp, consistent.clusterIp_eq]
    split <;> rfl
  nodeConfigYaml := by
    rw [held.nodeConfigYaml]
    cases document : r.userData.nodeConfigYaml with
    | none => exact .inl rfl
    | some document =>
      have family := consistent.nodeConfigYaml (Option.isSome_of_eq_some document)
      rw [family]
      exact .inr ⟨rfl, _, rfl⟩
  maxPods := by
    intro networking listed
    obtain ⟨n, counted⟩ := Option.isSome_iff_exists.1 (consistent.maxPods.2 ⟨networking, listed⟩)
    rw [held.maxPods, counted]
    exact ⟨n, rfl⟩
  noMaxPods := by
    intro missing
    have none := Option.not_isSome_iff_eq_none.1 (mt consistent.maxPods.1 missing)
    rw [held.maxPods, none]
    rfl

/-- **An object that holds a consistent report agrees with itself**, and with a gauge that shows
the report's group in the report's state. -/
theorem Consistent.agrees {v : Json} (held : r.HeldBy v) {gauge : Collector}
    (shown : gauge.snapshot = (∅ : Table String).insert r.instanceGroup r.state.name) :
    Agrees a settings g offerings gauge v := by
  obtain ⟨u, userData, heldUserData⟩ := held.userData
  exact
    { gauge := ⟨_, _, held.instanceGroup, held.state, shown, render_of_snapshot shown⟩
      names := ⟨_, consistent.rooted held⟩
      userData := ⟨_, u, held.osFamily, userData, consistent.fitsFamily heldUserData⟩ }

end

/-! ## Runs -/

/-- **What a run prints agrees with itself.** A run that prints its report has loaded settings,
a group and offerings, and has made a pass over the group. It prints the report of that pass,
then the gauge if it was asked to; the gauge shows one group, which is that of the report in the
state of the report; and the parts of the report agree with each other and with what the run was
told and has loaded.

So it is with the text itself. It opens with an object of JSON that holds the report, and what
stands in this object under the names of a report agrees with each other and with the gauge. -/
theorem printed_outputs_agree {words : List String} {s : Surroundings} {a : Arguments}
    {text : String} (asked : Arguments.parse words s.environment = .ok a)
    (done : run words s = .printed text) :
    ∃ settings g offerings, Loads a s settings g offerings ∧
      ∃ p gauge, offlinePass a settings g offerings = .ok (p, gauge) ∧
        let r := Report.ofPass p (a.timestamp.getD s.now)
        text = (if a.pretty then r.encode.indentedText else r.encode.compactText) ++ "\n" ++
          (if a.metrics then gauge.render else "") ∧
        gauge.snapshot = (∅ : Table String).insert r.instanceGroup r.state.name ∧
        Consistent a settings g offerings r ∧
        ∃ v, OpensWith text v (if a.metrics then gauge.render else "") ∧ r.HeldBy v ∧
          Agrees a settings g offerings gauge v := by
  rcases loads_or_firstFailure a s with ⟨settings, g, offerings, loads⟩ | ⟨failure, first⟩
  · rw [run_of_loads asked loads] at done
    have printed := (Outcome.printed.inj done).symm
    have shown := snapshot_finalGauge a settings g offerings (a.timestamp.getD s.now)
    have consistent := consistent_ofPass a settings g offerings s.now
    have held := Report.heldBy_encode
      (Report.ofPass (transition a settings g offerings).pass (a.timestamp.getD s.now))
    refine ⟨settings, g, offerings, loads, _, _, offlinePass_eq a settings g offerings, printed,
      shown, consistent, _, ?_, held, ?_⟩
    · rw [printed]
      exact printed_opensWith a _ _ _
    · exact consistent.agrees held shown
  · -- A run that could not load everything prints nothing.
    rw [run_of_firstFailure asked first] at done
    cases done

/-- A run for Windows nodes, asked for everything, with a cluster that has a name service. -/
theorem printed_outputs_agree_windows :
    let words := ["workers-a.yaml", "--endpoint", "e", "--ca", "c", "--dns-ip", "10.0.0.10",
      "--at", "2024-05-01T12:00:00Z", "--metrics"]
    let noon : Instant :=
      { date := ⟨2024, 5, 1⟩, hour := 12, minute := 0, second := 0, nanosecond := 0
        date_exists := by decide, hour_lt := by decide, minute_lt := by decide
        second_le := by decide, nanosecond_lt := by decide }
    let a : Arguments :=
      { manifest := "workers-a.yaml", endpoint := "e", certificateAuthority := "c"
        dnsIp := some "10.0.0.10", timestamp := some noon, metrics := true }
    let manifest := "kind: InstanceGroup\nmetadata:\n  name: workers-a\n" ++
      "  annotations:\n    instancemgr.keikoproj.io/os-family: windows\n"
    let s : Surroundings :=
      { environment := fun _ => none, file? := fun _ => some manifest, now := noon }
    Arguments.parse words s.environment = .ok a ∧
      ∃ text, run words s = .printed text ∧
        ∃ settings g offerings, Loads a s settings g offerings ∧
          ∃ p gauge, offlinePass a settings g offerings = .ok (p, gauge) ∧
            Consistent a settings g offerings (Report.ofPass p noon) ∧
            ∃ v, OpensWith text v gauge.render ∧
              Agrees a settings g offerings gauge v := by
  intro words noon a manifest s
  have asked : Arguments.parse words s.environment = .ok a := rfl
  have described : (Manifest.parse manifest).toOption.isSome = true := by decide +kernel
  obtain ⟨g, parsed⟩ : ∃ g, Manifest.parse manifest = .ok g := by
    cases parsed : Manifest.parse manifest with
    | error cause => rw [parsed] at described; cases described
    | ok g => exact ⟨g, rfl⟩
  have loads : Loads a s {} g [] := ⟨rfl, ⟨manifest, rfl, parsed⟩, .inl ⟨rfl, rfl⟩⟩
  have done := run_of_loads asked loads
  obtain ⟨settings, g, offerings, loads, p, gauge, made, -, -, consistent, v, opens, -, agrees⟩ :=
    printed_outputs_agree asked done
  exact ⟨asked, _, done, settings, g, offerings, loads, p, gauge, made, consistent, v, opens,
    agrees⟩

end CommandLine

end WorkerGroup
