/-
Steps: what can be done with a pass, and what each step leaves behind.

A step is an operation, and its reply has four parts: the result, the pass after it, what
the metrics sink was told and what there is to report. Only recording a state tells the
sink anything, and at most once per step, so the sink's side of a step is one verdict,
handed in with the operation. A state stays recorded when the sink does not take it.

A run of a pass is a list of such turns. Every statement about passes over time is a
statement about runs.
-/
import WorkerGroup.Pass

set_option autoImplicit false

namespace WorkerGroup

namespace Pass

/-! ## Operations and answers -/

/-- A question about a pass. -/
inductive Query where
  | osFamily
  | userData
  | instancePool
  | scalingGroupTags
  | managedPolicies
  | configurationsToPrune
  | discovered
  | state
  | isLocked
  | upgradeStrategy
  | groupName
  | group

/-- Something that is done with a pass. -/
inductive Operation where
  | ask (query : Query)
  /-- Recording a state on the status and at the sink. -/
  | setState (state : ReconcileState)
  /-- Recording the state the pass starts from, unless the group is locked. -/
  | discoverTransition
  /-- Failing if the group is locked. -/
  | ensureUnlocked
  /-- Replacing the snapshot as a whole. -/
  | setDiscovered (snapshot : DiscoveredState)
  /-- Changing the snapshot in place. -/
  | editDiscovered (f : DiscoveredState → DiscoveredState)
  /-- Changing the group in place. -/
  | editGroup (f : InstanceGroup → InstanceGroup)

/-- What an operation answers. -/
inductive Answer where
  | done
  | family (family : OsFamily)
  | parameters (parameters : Bootstrap.Parameters)
  | pool (pool : Option InstancePool)
  | tags (tags : List Tag)
  /-- Names of policies or of launch configurations. -/
  | names (names : List String)
  | snapshot (snapshot : DiscoveredState)
  | state (state : ReconcileState)
  | flag (flag : Bool)
  /-- A strategy, and whether one is configured at all. -/
  | strategy (configured : Bool) (strategy : UpgradeStrategy)
  | groupName (name : GroupName)
  | group (group : InstanceGroup)
deriving DecidableEq

/-- What comes of a step. -/
structure Reply where
  result : Except PassFailure Answer
  pass : Pass
  reports : List StateReport := []
  warnings : List Warning := []

/-! ## Steps -/

/-- The answer to a question. -/
def answer (p : Pass) : Query → Answer
  | .osFamily => .family p.osFamily
  | .userData => .parameters p.userData
  | .instancePool => .pool p.instancePool
  | .scalingGroupTags => .tags p.scalingGroupTags
  | .managedPolicies => .names p.managedPolicies
  | .configurationsToPrune => .names p.configurationsToPrune
  | .discovered => .snapshot p.snapshot
  | .state => .state p.group.state
  | .isLocked => .flag p.group.isLocked
  | .upgradeStrategy => .strategy p.group.spec.strategy.isSome p.group.upgradeStrategy
  | .groupName => .groupName p.group.groupName
  | .group => .group p.group

/-- The pass after a question. -/
def afterQuery (p : Pass) : Query → Pass
  | .osFamily | .userData => p.keepFamily
  | .instancePool => p.withSnapshot { p.snapshot with instancePool := p.instancePool }
  | .configurationsToPrune | .discovered => p.withSnapshot p.snapshot
  | .scalingGroupTags | .managedPolicies | .state | .isLocked | .upgradeStrategy
  | .groupName | .group => p

/-- What there is to report about a question. -/
def queryWarnings (p : Pass) : Query → List Warning
  | .osFamily => p.osFamilyWarnings
  | .userData => p.userDataWarnings
  | _ => []

/-- Recording a state. -/
def setState (s : ReconcileState) (answer : Answer) (verdict : Verdict) (p : Pass) : Reply :=
  { result := match verdict with
      | .ok () => .ok answer
      | .error cause => .error (.sink cause)
    pass := p.recordState s
    reports := [p.stateReport s] }

/-- One operation, with the sink's verdict on what it is told, if it is told anything. -/
def step (op : Operation) (verdict : Verdict) (p : Pass) : Reply :=
  match op with
  | .ask query =>
    { result := .ok (p.answer query), pass := p.afterQuery query,
      warnings := p.queryWarnings query }
  | .setState s => p.setState s .done verdict
  | .discoverTransition =>
    if p.group.isLocked then
      { result := .error (.locked p.group.groupName), pass := p }
    else
      (p.withSnapshot p.snapshot).setState p.initialState (.state p.initialState) verdict
  | .ensureUnlocked =>
    { result := if p.group.isLocked then .error (.locked p.group.groupName) else .ok .done
      pass := p }
  | .setDiscovered d => { result := .ok .done, pass := p.withSnapshot d }
  | .editDiscovered f => { result := .ok .done, pass := p.withSnapshot (f p.snapshot) }
  | .editGroup f => { result := .ok .done, pass := p.edit f }

/-- The lock refuses a transition before anything is done. -/
theorem transition_of_locked {p : Pass} {v : Verdict} (h : p.group.isLocked = true) :
    p.step .discoverTransition v =
      { result := .error (.locked p.group.groupName), pass := p } := by
  rw [step, if_pos h]

/-- Without the lock the derived state is recorded on the pass with its snapshot made. -/
theorem transition_of_unlocked {p : Pass} {v : Verdict} (h : p.group.isLocked = false) :
    p.step .discoverTransition v =
      (p.withSnapshot p.snapshot).setState p.initialState (.state p.initialState) v := by
  rw [step, h, if_neg Bool.false_ne_true]

/-! ## Runs -/

/-- An operation with the sink's verdict on it. -/
structure Turn where
  operation : Operation
  verdict : Verdict := .ok ()

/-- The replies of a run. -/
def run (p : Pass) : List Turn → List Reply
  | [] => []
  | t :: ts =>
    let reply := p.step t.operation t.verdict
    reply :: run reply.pass ts

/-- The pass after a run. -/
def after (p : Pass) (ts : List Turn) : Pass :=
  ts.foldl (fun p t => (p.step t.operation t.verdict).pass) p

/-- What the sink was told during a run. -/
def reports (p : Pass) (ts : List Turn) : List StateReport :=
  (p.run ts).flatMap (·.reports)

end Pass

end WorkerGroup
