/-
Three ways to be in the default namespace.

A group is in the default namespace when it names it, when it names the empty one and when
it names none. Which of the three its manifest says is kept on the group, since the group is
handed back as it was handed in, and nothing else may depend on it: a group whose identity
came in two spellings would be reported under two keys and own two sets of resources.

Nothing does. What the pass fixes at its start and what it answers, reports and refuses with
is computed from the namespace as the group reads it, which is one for the three
(`namespaceName_inNamespace`), and an operation does to a group in one spelling what it does
to the same group in another (`pass_step_inNamespace`). So two sessions with the one and with
the other are the same all through, with whatever sink: a sink can go by all it was told so
far (`verdict_of_turns`), and is told the same. An edit of the group could tell the two apart
on its own account; the statement is about those that leave the namespace alone.
-/
import WorkerGroup.Proofs.Pass.Moments
import WorkerGroup.Report

set_option autoImplicit false

namespace WorkerGroup

namespace InstanceGroup

/-- The group with its namespace said in this way. -/
def inNamespace (ns : Option String) (g : InstanceGroup) : InstanceGroup :=
  { g with metadata := { g.metadata with namespaceName := ns } }

theorem inNamespace_self (g : InstanceGroup) : g.inNamespace g.metadata.namespaceName = g := rfl

/-- The ways to say the default namespace: nothing, the empty text, and its name. -/
def defaultSpellings : List (Option String) :=
  [none, some "", some "default"]

theorem none_mem_defaultSpellings : none ∈ defaultSpellings := List.mem_cons_self

/-- However it is said, it is read as the default namespace. -/
theorem namespaceName_inNamespace {ns : Option String} (h : ns ∈ defaultSpellings)
    (g : InstanceGroup) : (g.inNamespace ns).namespaceName = "default" := by
  simp only [defaultSpellings, List.mem_cons, List.not_mem_nil, or_false] at h
  obtain rfl | rfl | rfl := h
  · rfl
  · rfl
  · rfl

/-- An edit leaves the namespace alone: it stays as it is said, and what becomes of the rest
of the group does not depend on how the default one is said. -/
structure LeavesNamespace (f : InstanceGroup → InstanceGroup) : Prop where
  kept (g : InstanceGroup) : (f g).metadata.namespaceName = g.metadata.namespaceName
  rest (g : InstanceGroup) : ∀ ns ∈ defaultSpellings,
    (f (g.inNamespace ns)).inNamespace none = (f (g.inNamespace none)).inNamespace none

/-- The edit of a group in one spelling is the edit of the group in no spelling, with the
spelling put back. -/
theorem LeavesNamespace.edit {f : InstanceGroup → InstanceGroup} (h : LeavesNamespace f)
    {ns : Option String} (spelled : ns ∈ defaultSpellings) (g : InstanceGroup) :
    f (g.inNamespace ns) = (f (g.inNamespace none)).inNamespace ns := by
  have own := inNamespace_self (f (g.inNamespace ns))
  have kept : (f (g.inNamespace ns)).metadata.namespaceName = ns := h.kept (g.inNamespace ns)
  rw [kept] at own
  calc f (g.inNamespace ns)
      = ((f (g.inNamespace ns)).inNamespace none).inNamespace ns := own.symm
    _ = ((f (g.inNamespace none)).inNamespace none).inNamespace ns := by rw [h.rest g ns spelled]

end InstanceGroup

open InstanceGroup

namespace Pass

/-! ## What can be seen of a session -/

/-- An answer without the namespace as a group that is handed out says it. -/
def Answer.exceptNamespace : Answer → Answer
  | .group g => .group (g.inNamespace none)
  | answer => answer

/-- What can be seen of a pass: its names, all its answers and its report. -/
structure View where
  resourcePrefix : String
  scalingGroupName : String
  launchTemplateName : String
  roleName : String
  launchConfigurationName : Instant → String
  answer : Query → Answer
  report : Instant → Report

/-- The view of a pass. -/
def view (p : Pass) : View :=
  { resourcePrefix := p.resourcePrefix
    scalingGroupName := p.scalingGroupName
    launchTemplateName := p.launchTemplateName
    roleName := p.roleName
    launchConfigurationName := p.launchConfigurationName
    answer := fun query => (p.answer query).exceptNamespace
    report := Report.ofPass p }

/-- What can be seen of a step: what comes of it, and the pass after it. -/
structure StepView where
  result : Except PassFailure Answer
  reports : List StateReport
  warnings : List Warning
  after : View

/-- The view of a reply. -/
def Reply.view (r : Reply) : StepView :=
  ⟨r.result.map Answer.exceptNamespace, r.reports, r.warnings, r.pass.view⟩

/-- What a sink says to the last of the reports it was told, from all it was told so far. -/
abbrev Sink := List StateReport → Verdict

/-- The turns in which some operations are taken, with a sink that was told something before. -/
def turns (sink : Sink) (told : List StateReport) (p : Pass) : List Operation → List Turn
  | [] => []
  | op :: ops =>
    -- What is told does not wait for the verdict (`reports_step`).
    let toldNow := told ++ (p.step op (.ok ())).reports
    ⟨op, sink toldNow⟩ :: turns sink toldNow (p.step op (sink toldNow)).pass ops

/-- What can be seen of a pass from its start on: the first report, why it did not start, or
the pass at its start and every step of it. -/
structure Session where
  firstReport : StateReport
  steps : Except PassFailure (View × List StepView)

/-- A session with a group: a pass over it, with a sink, and operations one after another. -/
def session (g : InstanceGroup) (settings : Settings) (sink : Sink) (ops : List Operation) :
    Session :=
  let first := startReport g settings
  { firstReport := first
    steps := (start g settings (sink [first])).map fun p =>
      (p.view, (p.run (p.turns sink [first] ops)).map Reply.view) }

/-- A step tells the sink the same, whatever the sink will say. -/
theorem reports_step (p : Pass) (op : Operation) (v w : Verdict) :
    (p.step op v).reports = (p.step op w).reports := by
  cases op with
  | discoverTransition =>
    rw [step, step]
    split
    · rfl
    · rfl
  | ask _ | setState _ | ensureUnlocked | setDiscovered _ | editDiscovered _ | editGroup _ => rfl

/-- **The sink goes by all it was told**: its verdict on a turn is what it says to what it was
told before, to the reports of the turns so far, and to those of the turn itself. -/
theorem verdict_of_turns {sink : Sink} {told : List StateReport} {p : Pass}
    {ops : List Operation} {before behind : List Turn} {t : Turn}
    (h : p.turns sink told ops = before ++ t :: behind) :
    t.verdict = sink (told ++ p.reports (before ++ [t])) := by
  induction ops generalizing p told before with
  | nil => exact absurd h (by simp [turns])
  | cons op ops ih =>
    rw [turns] at h
    -- The reports of the turn were found with a verdict that may not be the sink's.
    have own := reports_step p op (.ok ()) (sink (told ++ (p.step op (.ok ())).reports))
    cases before with
    | nil =>
      obtain ⟨rfl, -⟩ := List.cons.inj h
      simp only [List.nil_append, reports, run, List.flatMap_singleton, ← own]
    | cons b before =>
      obtain ⟨rfl, rest⟩ := List.cons.inj h
      have later := ih rest
      simp only [List.cons_append, reports, run, List.flatMap_cons, ← own] at later ⊢
      rw [later, List.append_assoc]

/-- The turns of a session are its operations. -/
theorem operation_mem_of_mem_turns {sink : Sink} {told : List StateReport} {p : Pass}
    {ops : List Operation} {t : Turn} (h : t ∈ p.turns sink told ops) : t.operation ∈ ops := by
  induction ops generalizing p told with
  | nil => cases h
  | cons op ops ih =>
    rw [turns] at h
    rcases List.mem_cons.1 h with rfl | later
    · exact List.mem_cons_self
    · exact List.mem_cons_of_mem _ (ih later)

/-! ## One pass in several spellings -/

/-- The pass over the same group with its namespace said in this way. -/
def inNamespace (ns : Option String) (p : Pass) : Pass :=
  { p with group := p.group.inNamespace ns }

section

variable {ns : Option String} (h : ns ∈ defaultSpellings)
include h

theorem groupName_inNamespace (p : Pass) :
    (p.inNamespace ns).group.groupName = (p.inNamespace none).group.groupName := by
  have here : (p.inNamespace ns).group.namespaceName = "default" :=
    namespaceName_inNamespace h p.group
  have there : (p.inNamespace none).group.namespaceName = "default" :=
    namespaceName_inNamespace none_mem_defaultSpellings p.group
  rw [groupName, groupName, here, there]
  rfl

theorem scalingGroupTags_inNamespace (p : Pass) :
    (p.inNamespace ns).scalingGroupTags = (p.inNamespace none).scalingGroupTags := by
  have same : (p.inNamespace ns).group.namespaceName = (p.inNamespace none).group.namespaceName :=
    congrArg GroupName.namespaceName (groupName_inNamespace h p)
  rw [scalingGroupTags, scalingGroupTags, Tag.ofScalingGroup, Tag.ofScalingGroup, Tag.ownership,
    Tag.ownership, same]
  rfl

/-- **A pass looks the same in all the spellings.** Of all that is answered only the name and
the tags of the group have to do with the namespace, and they are made of it as it is read. -/
theorem view_inNamespace (p : Pass) : (p.inNamespace ns).view = (p.inNamespace none).view := by
  have name := groupName_inNamespace h p
  have tags := scalingGroupTags_inNamespace h p
  have answers : (p.inNamespace ns).view.answer = (p.inNamespace none).view.answer := by
    funext query
    cases query with
    | scalingGroupTags => exact congrArg Answer.tags tags
    | groupName => exact congrArg Answer.groupName name
    | osFamily | userData | instancePool | managedPolicies | configurationsToPrune | discovered
    | state | isLocked | upgradeStrategy | group => rfl
  have report : (p.inNamespace ns).view.report = (p.inNamespace none).view.report := by
    funext t
    simp only [view, Report.ofPass, name, tags]
    rfl
  rw [View.mk.injEq]
  exact ⟨rfl, rfl, rfl, rfl, rfl, answers, report⟩

/-! ## Steps and runs -/

/-- **An operation does the same in all the spellings**, and leaves the spelling. -/
theorem pass_step_inNamespace (p : Pass) {op : Operation} (v : Verdict)
    (edits : ∀ f, op = .editGroup f → LeavesNamespace f) :
    ((p.inNamespace ns).step op v).pass =
      (((p.inNamespace none).step op v).pass).inNamespace ns := by
  cases op with
  | ask query => cases query <;> rfl
  | discoverTransition =>
    cases locked : p.group.isLocked with
    | true =>
      have here : (p.inNamespace ns).group.isLocked = true := locked
      have there : (p.inNamespace none).group.isLocked = true := locked
      rw [transition_of_locked here, transition_of_locked there]
      rfl
    | false =>
      have here : (p.inNamespace ns).group.isLocked = false := locked
      have there : (p.inNamespace none).group.isLocked = false := locked
      rw [transition_of_unlocked here, transition_of_unlocked there]
      rfl
  | editGroup f =>
    have edited := (edits f rfl).edit h p.group
    simp only [step, edit, inNamespace, edited]
  | setState _ | ensureUnlocked | setDiscovered _ | editDiscovered _ => rfl

/-- What comes of an operation is the same in all the spellings. The sink is told, and a lock
refuses with, the name of the group, and that is one. -/
theorem said_step_inNamespace (p : Pass) (op : Operation) (v : Verdict) :
    let here := (p.inNamespace ns).step op v
    let there := (p.inNamespace none).step op v
    here.result.map Answer.exceptNamespace = there.result.map Answer.exceptNamespace ∧
      here.reports = there.reports ∧ here.warnings = there.warnings := by
  have name := groupName_inNamespace h p
  have report (s : ReconcileState) :
      (p.inNamespace ns).stateReport s = (p.inNamespace none).stateReport s := by
    rw [stateReport, stateReport, name]
  cases op with
  | ask query =>
    have answer := congrFun (congrArg View.answer (view_inNamespace h p)) query
    exact ⟨congrArg Except.ok answer, rfl, by cases query <;> rfl⟩
  | setState s => exact ⟨rfl, congrArg (fun r => [r]) (report s), rfl⟩
  | discoverTransition =>
    cases locked : p.group.isLocked with
    | true =>
      have here : (p.inNamespace ns).group.isLocked = true := locked
      have there : (p.inNamespace none).group.isLocked = true := locked
      rw [transition_of_locked here, transition_of_locked there, name]
      exact ⟨rfl, rfl, rfl⟩
    | false =>
      have here : (p.inNamespace ns).group.isLocked = false := locked
      have there : (p.inNamespace none).group.isLocked = false := locked
      rw [transition_of_unlocked here, transition_of_unlocked there]
      exact ⟨rfl, congrArg (fun r => [r]) (report _), rfl⟩
  | ensureUnlocked =>
    rw [step, step, name]
    exact ⟨rfl, rfl, rfl⟩
  | setDiscovered _ | editDiscovered _ | editGroup _ => exact ⟨rfl, rfl, rfl⟩

/-- **A step looks the same in all the spellings.** -/
theorem view_step_inNamespace (p : Pass) {op : Operation} (v : Verdict)
    (edits : ∀ f, op = .editGroup f → LeavesNamespace f) :
    ((p.inNamespace ns).step op v).view = ((p.inNamespace none).step op v).view := by
  obtain ⟨result, reports, warnings⟩ := said_step_inNamespace h p op v
  have unspelled := pass_step_inNamespace none_mem_defaultSpellings p v edits
  have after : ((p.inNamespace ns).step op v).pass.view =
      ((p.inNamespace none).step op v).pass.view := by
    rw [pass_step_inNamespace h p v edits, view_inNamespace h, ← unspelled]
  rw [Reply.view, Reply.view, result, reports, warnings, after]

/-- **A run looks the same in all the spellings.** The induction is on the run, for every
pass it may be taken from, since a step leaves the spelling on another pass. -/
theorem run_inNamespace (p : Pass) {ts : List Turn}
    (edits : ∀ t ∈ ts, ∀ f, t.operation = .editGroup f → LeavesNamespace f) :
    ((p.inNamespace ns).run ts).map Reply.view = ((p.inNamespace none).run ts).map Reply.view := by
  induction ts generalizing p with
  | nil => rfl
  | cons t ts ih =>
    obtain ⟨first, later⟩ := List.forall_mem_cons.1 edits
    have unspelled := pass_step_inNamespace none_mem_defaultSpellings p t.verdict first
    rw [run, run, List.map_cons, List.map_cons, view_step_inNamespace h p t.verdict first,
      pass_step_inNamespace h p t.verdict first, ih _ later, ← unspelled]

/-- A sink is told the same in all the spellings, and so it says the same. -/
theorem turns_inNamespace (sink : Sink) (told : List StateReport) (p : Pass)
    {ops : List Operation} (edits : ∀ f, .editGroup f ∈ ops → LeavesNamespace f) :
    (p.inNamespace ns).turns sink told ops = (p.inNamespace none).turns sink told ops := by
  induction ops generalizing p told with
  | nil => rfl
  | cons op ops ih =>
    have first : ∀ f, op = .editGroup f → LeavesNamespace f :=
      fun f edit => edits f (edit ▸ List.mem_cons_self)
    have later : ∀ f, .editGroup f ∈ ops → LeavesNamespace f :=
      fun f edit => edits f (List.mem_cons_of_mem _ edit)
    have reports := (said_step_inNamespace h p op (.ok ())).2.1
    rw [turns, turns, reports, pass_step_inNamespace h p _ first, ih _ _ later,
      ← pass_step_inNamespace none_mem_defaultSpellings p _ first]

/-! ## Sessions -/

theorem prepare_inNamespace (g : InstanceGroup) (settings : Settings) :
    prepare (g.inNamespace ns) settings = (prepare (g.inNamespace none) settings).inNamespace ns := by
  have named : ResourceNames.prefixOf (g.inNamespace ns) =
      ResourceNames.prefixOf (g.inNamespace none) := by
    rw [ResourceNames.prefixOf, ResourceNames.prefixOf, namespaceName_inNamespace h,
      namespaceName_inNamespace none_mem_defaultSpellings]
    rfl
  rw [prepare, prepare, named]
  rfl

theorem start_inNamespace (g : InstanceGroup) (settings : Settings) (v : Verdict) :
    start (g.inNamespace ns) settings v =
      (start (g.inNamespace none) settings v).map (inNamespace ns) := by
  cases v with
  | ok u =>
    rw [start, start, prepare_inNamespace h]
    rfl
  | error cause => rfl

theorem startReport_inNamespace (g : InstanceGroup) (settings : Settings) :
    startReport (g.inNamespace ns) settings = startReport (g.inNamespace none) settings := by
  rw [startReport, startReport, prepare_inNamespace h, stateReport, stateReport,
    groupName_inNamespace h]
  rfl

/-- **A session looks the same in all the spellings.** -/
theorem session_inNamespace (g : InstanceGroup) (settings : Settings) (sink : Sink)
    {ops : List Operation} (edits : ∀ f, .editGroup f ∈ ops → LeavesNamespace f) :
    session (g.inNamespace ns) settings sink ops =
      session (g.inNamespace none) settings sink ops := by
  rw [session, session, startReport_inNamespace h, start_inNamespace h]
  generalize startReport (g.inNamespace none) settings = first
  have again := start_inNamespace none_mem_defaultSpellings g settings (sink [first])
  cases started : start (g.inNamespace none) settings (sink [first]) with
  | error failure => rfl
  | ok p =>
    have unspelled : p.inNamespace none = p := by
      rw [started] at again
      exact (Except.ok.inj again).symm
    have turns := turns_inNamespace h sink [first] p edits
    have view := view_inNamespace h p
    have edits' : ∀ t ∈ p.turns sink [first] ops, ∀ f, t.operation = .editGroup f →
        LeavesNamespace f := by
      intro t taken f edit
      exact edits f (edit ▸ operation_mem_of_mem_turns taken)
    have steps := run_inNamespace h p edits'
    rw [unspelled] at turns view steps
    simp only [Except.map, turns, view, steps]

end

/-- **The ways to be in the default namespace cannot be told apart.** Take two groups that are
equal but for which of them they use, any settings, any sink, and any operations whose edits
leave the namespace alone. The two sessions have the same first report and start or fail to
start alike; they have the same names, answers and report at the start and after every
step, and every step has the same result, the same reports to the sink and the same warnings.
What is handed out of the group itself still says the namespace as it was said. -/
theorem default_namespace_is_one {ns ns' : Option String} (h : ns ∈ defaultSpellings)
    (h' : ns' ∈ defaultSpellings) (g : InstanceGroup) (settings : Settings) (sink : Sink)
    {ops : List Operation} (edits : ∀ f, .editGroup f ∈ ops → LeavesNamespace f) :
    session (g.inNamespace ns) settings sink ops =
      session (g.inNamespace ns') settings sink ops :=
  (session_inNamespace h g settings sink edits).trans
    (session_inNamespace h' g settings sink edits).symm

/-- A group that names no namespace and one that names the default one, with a sink that
refuses the second report it is told, a lock set by an edit and a transition the lock refuses:
both have the same name in the first report, in the prefix and in the refusal. -/
theorem default_namespace_is_one_when_locked :
    let g := InstanceGroup.named "" "workers"
    let lock : InstanceGroup → InstanceGroup :=
      fun g => { g with spec := { g.spec with locked := some true } }
    let sink : Sink := fun told =>
      if told.length = 2 then .error (.unavailable "down") else .ok ()
    let ops : List Operation := [.setState .ready, .editGroup lock, .discoverTransition]
    session (g.inNamespace none) {} sink ops = session (g.inNamespace (some "default")) {} sink ops ∧
      (session (g.inNamespace none) {} sink ops).firstReport = ⟨"default/workers", "Init"⟩ ∧
      ∃ view steps, (session (g.inNamespace none) {} sink ops).steps = .ok (view, steps) ∧
        view.resourcePrefix = "-default-workers" ∧
        steps.map (fun s => (s.result, s.reports)) =
          [(.error (.sink (.unavailable "down")), [⟨"default/workers", "Ready"⟩]), (.ok .done, []),
            (.error (.locked ⟨"default", "workers"⟩), [])] := by
  intro g lock sink ops
  have edits : ∀ f, .editGroup f ∈ ops → LeavesNamespace f := by
    intro f edit
    simp only [ops, List.mem_cons, List.not_mem_nil, or_false, reduceCtorEq, false_or,
      Operation.editGroup.injEq] at edit
    exact edit ▸ ⟨fun g => rfl, fun g ns _ => rfl⟩
  have spelled : some "default" ∈ defaultSpellings := by decide
  exact ⟨default_namespace_is_one none_mem_defaultSpellings spelled g {} sink edits, rfl, _, _, rfl,
    rfl, rfl⟩

end Pass

end WorkerGroup
