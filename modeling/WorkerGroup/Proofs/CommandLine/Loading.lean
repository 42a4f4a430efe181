/-
A run fails while it loads, or not at all.

A run loads three things in order: the settings from the environment, the group from the
file of the manifest, and the offerings from their file, if one is given. What it loads is
`Loads`, and `FirstFailure` is the first of these steps that cannot be taken; one of the two
there always is (`loads_or_firstFailure`).

Behind that nothing can go wrong any more, although there is much that could in another
program. The cloud is asked for the very cluster it was told of, by the name it has in the
group, be that name empty (`describeCluster_self`). The state gauge takes whatever it is
told. And a transition at such a gauge fails for a lock only, which is no failure of a run
(`recordInitialState_eq`).

The state of the pass is known from the group alone (`state_transition`), and who reads what was
printed finds its name there (`under_state_report`).
-/
import WorkerGroup.Proofs.CommandLine.Printed
import WorkerGroup.Proofs.Pass.Transition

set_option autoImplicit false

namespace WorkerGroup

/-! ## The steps behind loading -/

/-- The cloud knows the cluster it was told of. -/
theorem Cloud.describeCluster_self (c : ClusterInfo) (offerings : List Offering) :
    ({ cluster := some c, offerings } : Cloud).describeCluster c.name = .ok c :=
  if_pos rfl

namespace CommandLine

open Pass (prepare stamp)

/-- **A transition at the gauge fails for a lock only**, and that lets the run go on. -/
theorem failure_of_transition {p : Pass} (gauge : Collector) {failure : PassFailure}
    (h : (p.step .discoverTransition gauge.verdict).result = .error failure) :
    failure = .locked p.group.groupName ∧ p.group.isLocked = true := by
  by_cases locked : p.group.isLocked = true
  · rw [Pass.transition_of_locked locked] at h
    exact ⟨(Except.error.inj h).symm, locked⟩
  · rw [Pass.transition_of_unlocked (Bool.not_eq_true _ ▸ locked)] at h
    cases h

/-- Recording the state a pass starts from never fails. -/
theorem recordInitialState_eq (p : Pass) (gauge : Collector) :
    recordInitialState p gauge =
      .ok ((p.step .discoverTransition gauge.verdict).pass,
        (p.step .discoverTransition gauge.verdict).reports.foldl Collector.record gauge) := by
  rw [recordInitialState]
  cases result : (p.step .discoverTransition gauge.verdict).result with
  | ok answer => rfl
  | error failure =>
    obtain ⟨rfl, -⟩ := failure_of_transition gauge result
    rfl

/-- The pass of a run as it is before its state is recorded. -/
def loadedPass (a : Arguments) (settings : Settings) (g : InstanceGroup)
    (offerings : List Offering) : Pass :=
  (((prepare g settings).recordState .init).edit stamp).withSnapshot
    (snapshot (a.clusterInfo g) a.dnsIp offerings)

/-- The transition of a run. -/
def transition (a : Arguments) (settings : Settings) (g : InstanceGroup)
    (offerings : List Offering) : Pass.Reply :=
  (loadedPass a settings g offerings).step .discoverTransition (.ok ())

/-- The state gauge of a run in the end. -/
def finalGauge (a : Arguments) (settings : Settings) (g : InstanceGroup)
    (offerings : List Offering) : Collector :=
  (transition a settings g offerings).reports.foldl Collector.record
    (({} : Collector).record (Pass.startReport g settings))

section

variable (a : Arguments) (settings : Settings) (g : InstanceGroup) (offerings : List Offering)

/-- **Once everything is loaded a pass is made, whatever was loaded.** -/
theorem offlinePass_eq :
    offlinePass a settings g offerings =
      .ok ((transition a settings g offerings).pass, finalGauge a settings g offerings) := by
  -- Only the question for the cluster does not compute: the names have to be compared.
  have made : offlinePass a settings g offerings =
      ((Cloud.describeCluster { cluster := some (a.clusterInfo g), offerings }
        (a.clusterInfo g).name).mapError PassFailure.cloud).bind fun cluster =>
          recordInitialState ((((prepare g settings).recordState .init).edit stamp).withSnapshot
            (snapshot cluster a.dnsIp offerings))
            (({} : Collector).record (Pass.startReport g settings)) := rfl
  rw [made, Cloud.describeCluster_self]
  exact recordInitialState_eq (loadedPass a settings g offerings) _

end

/-! ## Loading -/

/-- A file can be read and describes a group. -/
def ReadsGroup (s : Surroundings) (path : String) (g : InstanceGroup) : Prop :=
  ∃ text, s.file? path = some text ∧ Manifest.parse text = .ok g

/-- The file of the offerings, if one is given, can be read and lists them; without one there
are none. -/
def ReadsOfferings (s : Surroundings) (given : Option String) (offerings : List Offering) :
    Prop :=
  (given = none ∧ offerings = []) ∨
    ∃ path text, given = some path ∧ s.file? path = some text ∧
      Manifest.offerings? text = some offerings

/-- What a run loads. -/
structure Loads (a : Arguments) (s : Surroundings) (settings : Settings) (g : InstanceGroup)
    (offerings : List Offering) : Prop where
  settings : Settings.ofVariables s.environment = .ok settings
  group : ReadsGroup s a.manifest g
  offerings : ReadsOfferings s a.offerings offerings

/-- The first step of loading that cannot be taken. -/
inductive FirstFailure (a : Arguments) (s : Surroundings) : RunFailure → Prop
  | settings {cause : SettingFailure} (h : Settings.ofVariables s.environment = .error cause) :
    FirstFailure a s (.settings cause)
  | unreadableManifest {settings : Settings}
    (loaded : Settings.ofVariables s.environment = .ok settings)
    (h : s.file? a.manifest = none) : FirstFailure a s (.unreadableManifest a.manifest)
  | manifest {settings : Settings} {text : String} {cause : ManifestFailure}
    (loaded : Settings.ofVariables s.environment = .ok settings)
    (read : s.file? a.manifest = some text) (h : Manifest.parse text = .error cause) :
    FirstFailure a s (.manifest a.manifest cause)
  | unreadableOfferings {settings : Settings} {g : InstanceGroup} {path : String}
    (loaded : Settings.ofVariables s.environment = .ok settings)
    (read : ReadsGroup s a.manifest g) (given : a.offerings = some path)
    (h : s.file? path = none) : FirstFailure a s (.unreadableOfferings path)
  | offerings {settings : Settings} {g : InstanceGroup} {path text : String}
    (loaded : Settings.ofVariables s.environment = .ok settings)
    (read : ReadsGroup s a.manifest g) (given : a.offerings = some path)
    (readOfferings : s.file? path = some text) (h : Manifest.offerings? text = none) :
    FirstFailure a s (.offerings path)

section

variable {a : Arguments} {s : Surroundings}

theorem loadManifest_of_readsGroup {path : String} {g : InstanceGroup} (h : ReadsGroup s path g) :
    loadManifest s path = .ok g := by
  obtain ⟨text, read, parsed⟩ := h
  simp only [loadManifest, read, parsed]
  rfl

theorem loadOfferings_of_readsOfferings {given : Option String} {offerings : List Offering}
    (h : ReadsOfferings s given offerings) : loadOfferings s given = .ok offerings := by
  rcases h with ⟨rfl, rfl⟩ | ⟨path, text, rfl, read, listed⟩
  · rfl
  · simp only [loadOfferings, read, listed]

/-- With the settings known a run is left with its two files. -/
theorem resolve_of_settings {settings : Settings}
    (h : Settings.ofVariables s.environment = .ok settings) :
    resolve a s = (loadManifest s a.manifest).bind fun g =>
      (loadOfferings s a.offerings).bind fun offerings =>
        .ok (printed a (a.timestamp.getD s.now) (transition a settings g offerings).pass
          (finalGauge a settings g offerings)) := by
  simp only [resolve, h, offlinePass_eq]
  rfl

/-- What a run that loads everything prints. -/
theorem resolve_of_loads {settings : Settings} {g : InstanceGroup} {offerings : List Offering}
    (h : Loads a s settings g offerings) :
    resolve a s =
      .ok (printed a (a.timestamp.getD s.now) (transition a settings g offerings).pass
        (finalGauge a settings g offerings)) := by
  rw [resolve_of_settings h.settings, loadManifest_of_readsGroup h.group, Except.bind,
    loadOfferings_of_readsOfferings h.offerings, Except.bind]

/-- What is the first to fail is what a run fails with. -/
theorem resolve_of_firstFailure {failure : RunFailure} (h : FirstFailure a s failure) :
    resolve a s = .error failure := by
  cases h with
  | settings h =>
    rw [resolve, h]
    rfl
  | unreadableManifest loaded h =>
    rw [resolve_of_settings loaded, loadManifest, h]
    rfl
  | manifest loaded read h =>
    simp only [resolve_of_settings loaded, loadManifest, read, h]
    rfl
  | unreadableOfferings loaded read given h =>
    rw [resolve_of_settings loaded, loadManifest_of_readsGroup read, given]
    simp only [Except.bind, loadOfferings, h]
  | offerings loaded read given readOfferings h =>
    rw [resolve_of_settings loaded, loadManifest_of_readsGroup read, given]
    simp only [Except.bind, loadOfferings, readOfferings, h]

/-- What can be wrong with the file of a group. -/
theorem readsGroup_or (s : Surroundings) (path : String) :
    (∃ g, ReadsGroup s path g) ∨ s.file? path = none ∨
      ∃ text cause, s.file? path = some text ∧ Manifest.parse text = .error cause := by
  cases read : s.file? path with
  | none => exact .inr (.inl rfl)
  | some text =>
    cases parsed : Manifest.parse text with
    | ok g => exact .inl ⟨g, text, read, parsed⟩
    | error cause => exact .inr (.inr ⟨text, cause, rfl, parsed⟩)

/-- What can be wrong with the file of the offerings, if there is one. -/
theorem readsOfferings_or (s : Surroundings) (given : Option String) :
    (∃ offerings, ReadsOfferings s given offerings) ∨ ∃ path, given = some path ∧
      (s.file? path = none ∨
        ∃ text, s.file? path = some text ∧ Manifest.offerings? text = none) := by
  rcases given with _ | path
  · exact .inl ⟨[], .inl ⟨rfl, rfl⟩⟩
  · cases read : s.file? path with
    | none => exact .inr ⟨path, rfl, .inl read⟩
    | some text =>
      cases listed : Manifest.offerings? text with
      | some offerings => exact .inl ⟨offerings, .inr ⟨path, text, rfl, read, listed⟩⟩
      | none => exact .inr ⟨path, rfl, .inr ⟨text, read, listed⟩⟩

/-- A run loads everything, or there is a first failure. -/
theorem loads_or_firstFailure (a : Arguments) (s : Surroundings) :
    (∃ settings g offerings, Loads a s settings g offerings) ∨ ∃ f, FirstFailure a s f := by
  cases loaded : Settings.ofVariables s.environment with
  | error cause => exact .inr ⟨_, .settings loaded⟩
  | ok settings =>
    rcases readsGroup_or s a.manifest with ⟨g, group⟩ | unread | ⟨text, cause, read, broken⟩
    · rcases readsOfferings_or s a.offerings with
        ⟨offerings, listed⟩ | ⟨path, given, unread | ⟨text, read, broken⟩⟩
      · exact .inl ⟨settings, g, offerings, loaded, group, listed⟩
      · exact .inr ⟨_, .unreadableOfferings loaded group given unread⟩
      · exact .inr ⟨_, .offerings loaded group given read broken⟩
    · exact .inr ⟨_, .unreadableManifest loaded unread⟩
    · exact .inr ⟨_, .manifest loaded read broken⟩

end

/-! ## Runs -/

section

variable {words : List String} {s : Surroundings} {a : Arguments}
  (h : Arguments.parse words s.environment = .ok a)
include h

/-- A run that loads everything prints its report. -/
theorem run_of_loads {settings : Settings} {g : InstanceGroup} {offerings : List Offering}
    (loads : Loads a s settings g offerings) :
    run words s =
      .printed (printed a (a.timestamp.getD s.now) (transition a settings g offerings).pass
        (finalGauge a settings g offerings)) := by
  simp only [run, h, resolve_of_loads loads]

/-- A run fails with what is the first to fail. -/
theorem run_of_firstFailure {failure : RunFailure} (first : FirstFailure a s failure) :
    run words s = .failed failure := by
  simp only [run, h, resolve_of_firstFailure first]

end

end CommandLine

end WorkerGroup
