/-
What the sink is told is what the status says.

A state is written in two places, on the status of the group and at the metrics sink, and
the sink may refuse it. The two are kept in step by writing the status first and whatever
comes of the report: the status then says the state of the last attempt, taken or refused,
and the reports are the attempts in order.

So a run is read as its list of attempts, `attempts`: the state of every recording, and
that of every transition of a group that is not locked. `attempt_cases` says all that an
attempt does and `step_of_no_attempt` all that any other operation does to the state;
the statements about runs follow by the induction over moments.

An edit of the group could rename it or write its status. The statements are about runs
whose edits do neither, `Moment.Quiet`, which is asked of the groups that are edited in
the run and of no others.
-/
import WorkerGroup.Proofs.Pass.Moments
import WorkerGroup.Proofs.StateGauge.History
import Mathlib.Data.List.Basic

set_option autoImplicit false

namespace WorkerGroup.Pass

/-! ## Attempts to record a state -/

/-- The state an operation sets out to record, if any: a transition of a locked group
records nothing. -/
def attempt? (p : Pass) : Operation → Option ReconcileState
  | .setState s => some s
  | .discoverTransition => if p.group.isLocked then none else some p.initialState
  | .ask _ | .ensureUnlocked | .setDiscovered _ | .editDiscovered _ | .editGroup _ => none

/-- The state that is set out to be recorded at a moment, if any. -/
def Moment.attempt? (m : Moment) : Option ReconcileState :=
  m.pass.attempt? m.turn.operation

/-- The states that are set out to be recorded during a run, in order. -/
def attempts (p : Pass) (ts : List Turn) : List ReconcileState :=
  (p.moments ts).filterMap Moment.attempt?

theorem attempt?_transition_of_locked {p : Pass} (h : p.group.isLocked = true) :
    p.attempt? .discoverTransition = none := by
  rw [Pass.attempt?, if_pos h]

theorem attempt?_transition_of_unlocked {p : Pass} (h : p.group.isLocked = false) :
    p.attempt? .discoverTransition = some p.initialState := by
  rw [Pass.attempt?, h]
  rfl

/-- **All that an attempt does**: it records the state on a pass with the same group. -/
theorem attempt_cases {p : Pass} {op : Operation} {s : ReconcileState}
    (h : p.attempt? op = some s) (v : Verdict) :
    ∃ (q : Pass) (answer : Answer), q.group = p.group ∧ p.step op v = q.setState s answer v := by
  cases op with
  | setState s' =>
    obtain rfl : s' = s := Option.some.inj h
    exact ⟨p, .done, rfl, rfl⟩
  | discoverTransition =>
    by_cases locked : p.group.isLocked = true
    · rw [attempt?_transition_of_locked locked] at h
      cases h
    · rw [Bool.not_eq_true] at locked
      rw [attempt?_transition_of_unlocked locked] at h
      obtain rfl : p.initialState = s := Option.some.inj h
      -- The state is recorded on the pass with its snapshot made, which has the same group.
      exact ⟨p.withSnapshot p.snapshot, .state p.initialState, rfl,
        transition_of_unlocked locked⟩
  | ask _ | ensureUnlocked | setDiscovered _ | editDiscovered _ | editGroup _ => cases h

/-- What does not set out to record a state tells the sink nothing, and only an edit
changes the group. -/
theorem step_of_no_attempt {p : Pass} {op : Operation} (h : p.attempt? op = none) (v : Verdict) :
    (p.step op v).reports = [] ∧
      ((p.step op v).pass.group = p.group ∨
        ∃ f, op = .editGroup f ∧ (p.step op v).pass.group = f p.group) := by
  cases op with
  | setState s => cases h
  | discoverTransition =>
    by_cases locked : p.group.isLocked = true
    · rw [transition_of_locked locked]
      exact ⟨rfl, .inl rfl⟩
    · rw [Bool.not_eq_true] at locked
      rw [attempt?_transition_of_unlocked locked] at h
      cases h
  | ask query => exact ⟨rfl, .inl (by cases query <;> rfl)⟩
  | ensureUnlocked | setDiscovered _ | editDiscovered _ => exact ⟨rfl, .inl rfl⟩
  | editGroup f => exact ⟨rfl, .inr ⟨f, rfl, rfl⟩⟩

/-- The sink is told of attempts and of nothing else, under the key the group has then. -/
theorem reply_reports (m : Moment) :
    m.reply.reports =
      m.attempt?.toList.map fun s => ⟨m.pass.group.groupName.text, s.name⟩ := by
  cases h : m.attempt? with
  | none => exact (step_of_no_attempt h m.turn.verdict).1
  | some s =>
    obtain ⟨q, answer, group, reply⟩ := attempt_cases h m.turn.verdict
    rw [Moment.reply, reply, ← group]
    rfl

/-! ## Edits that leave the identity and the status alone -/

/-- An edit leaves the name, the namespace and the status of a group as they are. -/
structure LeavesStatus (f : InstanceGroup → InstanceGroup) (g : InstanceGroup) : Prop where
  name : (f g).metadata.name = g.metadata.name
  namespaceName : (f g).metadata.namespaceName = g.metadata.namespaceName
  status : (f g).status = g.status

/-- The group is not edited at the moment, or the edit leaves those alone. -/
def Moment.Quiet (m : Moment) : Prop :=
  ∀ f, m.turn.operation = .editGroup f → LeavesStatus f m.pass.group

/-- Edits that leave those alone in every group do so wherever a run takes them. -/
theorem quiet_of_forall {p : Pass} {ts : List Turn}
    (h : ∀ t ∈ ts, ∀ f, t.operation = .editGroup f → ∀ g, LeavesStatus f g) :
    ∀ m ∈ p.moments ts, m.Quiet := by
  intro m hm f edited
  exact h m.turn (turn_mem_of_mem_moments hm) f edited m.pass.group

theorem LeavesStatus.groupName {f : InstanceGroup → InstanceGroup} {g : InstanceGroup}
    (h : LeavesStatus f g) : (f g).groupName = g.groupName := by
  rw [InstanceGroup.groupName, InstanceGroup.groupName, InstanceGroup.name, InstanceGroup.name,
    InstanceGroup.namespaceName, InstanceGroup.namespaceName, h.name, h.namespaceName]

/-- A quiet moment does not rename the group. -/
theorem Moment.Quiet.groupName {m : Moment} (quiet : m.Quiet) :
    m.reply.pass.group.groupName = m.pass.group.groupName := by
  rw [Moment.reply]
  cases h : m.attempt? with
  | some s =>
    obtain ⟨q, answer, group, reply⟩ := attempt_cases h m.turn.verdict
    rw [reply, ← group]
    rfl
  | none =>
    obtain same | ⟨f, edited, group⟩ := (step_of_no_attempt h m.turn.verdict).2
    · rw [same]
    · rw [group, (quiet f edited).groupName]

/-- After a quiet moment the status says the state of the attempt, and what it said
before when there was none. Whether the sink took the state does not matter. -/
theorem Moment.Quiet.state {m : Moment} (quiet : m.Quiet) :
    m.reply.pass.group.state = m.attempt?.getD m.pass.group.state := by
  rw [Moment.reply]
  cases h : m.attempt? with
  | some s =>
    obtain ⟨q, answer, -, reply⟩ := attempt_cases h m.turn.verdict
    rw [reply]
    rfl
  | none =>
    obtain same | ⟨f, edited, group⟩ := (step_of_no_attempt h m.turn.verdict).2
    · rw [same]
      rfl
    · rw [group, InstanceGroup.state, (quiet f edited).status]
      rfl

/-! ## Runs -/

section

variable {p : Pass} {ts : List Turn}

/-- In a quiet run the group has one name. -/
theorem groupName_after (quiet : ∀ m ∈ p.moments ts, m.Quiet) :
    (∀ m ∈ p.moments ts, m.pass.group.groupName = p.group.groupName) ∧
      (p.after ts).group.groupName = p.group.groupName :=
  moments_induction (I := fun q => q.group.groupName = p.group.groupName) rfl
    fun m hm named => (quiet m hm).groupName.trans named

/-- **In a quiet run the sink is told the attempts**, in order and under one key. -/
theorem reports_eq_map_attempts (quiet : ∀ m ∈ p.moments ts, m.Quiet) :
    p.reports ts = (p.attempts ts).map fun s => ⟨p.group.groupName.text, s.name⟩ := by
  have named := (groupName_after quiet).1
  have told : ∀ m ∈ p.moments ts, m.reply.reports =
      m.attempt?.toList.map fun s => ⟨p.group.groupName.text, s.name⟩ := by
    intro m hm
    rw [reply_reports, named m hm]
  rw [reports_eq_flatMap_moments, List.flatMap_congr told, ← List.map_flatMap, attempts,
    List.filterMap_eq_flatMap_toList]

/-- **After a quiet run the status says the last attempt.** -/
theorem state_after (quiet : ∀ m ∈ p.moments ts, m.Quiet) :
    (p.after ts).group.state = (p.attempts ts).getLastD p.group.state := by
  induction ts generalizing p with
  | nil => rfl
  | cons t ts ih =>
    rw [moments_cons] at quiet
    have now : (p.step t.operation t.verdict).pass.group.state = _ :=
      (quiet ⟨p, t⟩ List.mem_cons_self).state
    have later := ih fun m hm => quiet m (List.mem_cons_of_mem _ hm)
    -- Later attempts decide; when there are none it is what this turn left that is said,
    -- which is its own attempt or what was said before.
    rw [after_cons, later, now, attempts, attempts, moments_cons]
    cases h : Moment.attempt? ⟨p, t⟩ with
    | none => rw [List.filterMap_cons_none h, Option.getD_none]
    | some s => rw [List.filterMap_cons_some h, Option.getD_some, List.getLastD_cons]

end

/-- What a pass starts from: the group with the first state and the provisioner on its
status. -/
theorem group_start {g : InstanceGroup} {settings : Settings} {v : Verdict} {p : Pass}
    (h : start g settings v = .ok p) : p.group = stamp (g.withState .init) := by
  rw [eq_of_start h]
  rfl

/-- The result of an attempt says whether the sink took the state, and if not, why. -/
theorem result_of_attempt {m : Moment} {s : ReconcileState} (h : m.attempt? = some s) :
    ((∃ answer, m.reply.result = .ok answer) ↔ m.turn.verdict = .ok ()) ∧
      ∀ cause, m.reply.result = .error (.sink cause) ↔ m.turn.verdict = .error cause := by
  obtain ⟨q, answer, -, reply⟩ := attempt_cases h m.turn.verdict
  rw [Moment.reply, reply]
  cases m.turn.verdict with
  | ok u => simp [setState]
  | error cause => simp [setState]

/-- **The sink and the status are kept in step.** From the start of a pass on, in any
quiet run and whatever the sink takes or refuses:

- the sink is told the first state and then every attempt, in order, repeated states
  included, and nothing else, all under the group's namespace and name;
- the state that is answered is that of the last attempt, taken or refused;
- an attempt fails with the sink's cause exactly when the sink refused it;
- a collector whose writes under the group's key are those reports, whatever else is
  written to it under other keys, says the state that is answered. -/
theorem status_and_sink_agree {g : InstanceGroup} {settings : Settings} {v : Verdict} {p : Pass}
    {ts : List Turn} (h : start g settings v = .ok p) (quiet : ∀ m ∈ p.moments ts, m.Quiet) :
    let key := g.namespaceName ++ "/" ++ g.name
    let states := ReconcileState.init :: p.attempts ts
    let told := startReport g settings :: p.reports ts
    told = states.map (fun s => ⟨key, s.name⟩) ∧
    (p.after ts).answer .state = .state (states.getLast (List.cons_ne_nil _ _)) ∧
    (∀ m ∈ p.moments ts, m.attempt?.isSome →
      ((∃ answer, m.reply.result = .ok answer) ↔ m.turn.verdict = .ok ()) ∧
      ∀ cause, m.reply.result = .error (.sink cause) ↔ m.turn.verdict = .error cause) ∧
    (∀ (c : Collector) (ws : List Collector.Write),
      (ws.filter fun w => w.key = key) = told.map .record →
      (c.afterWrites ws).snapshot.find? key = some (p.after ts).group.state.name) := by
  intro key states told
  have named : p.group.groupName.text = key := by
    rw [group_start h]
    rfl
  have first : p.group.state = .init := by
    rw [group_start h]
    rfl
  have reports : told = states.map (fun s => ⟨key, s.name⟩) := by
    rw [List.map_cons, ← named, ← reports_eq_map_attempts quiet, named]
    rfl
  have last : (p.after ts).group.state = states.getLast (List.cons_ne_nil _ _) := by
    rw [state_after quiet, first, List.getLast_eq_getLastD]
  refine ⟨reports, congrArg Answer.state last, fun m _ attempt => ?_, fun c ws only => ?_⟩
  · obtain ⟨s, hs⟩ := Option.isSome_iff_exists.1 attempt
    exact result_of_attempt hs
  · -- The collector is told names of states, so its last word is the name of the last state.
    have writes : (ws.filter fun w => w.key = key) =
        (states.map ReconcileState.name).map fun s => .record ⟨key, s⟩ := by
      rw [only, reports, List.map_map, List.map_map]
      rfl
    have nonempty : states.map ReconcileState.name ≠ [] := by simp [states]
    rw [Collector.find?_afterWrites_of_records nonempty writes, List.getLast_map, last]

/-- A state the sink refuses, one it takes, a lock set by an edit, a transition the lock
refuses and a state again: three attempts, and the status says the last. -/
theorem status_and_sink_agree_when_locked :
    let g := InstanceGroup.named "apps" "workers"
    let p := ((prepare g {}).recordState .init).edit stamp
    let ts : List Turn :=
      [{ operation := .setState .ready, verdict := .error (.unavailable "down") },
       { operation := .discoverTransition },
       { operation := .editGroup fun g => { g with spec := { g.spec with locked := some true } } },
       { operation := .discoverTransition },
       { operation := .setState .locked }]
    start g {} (.ok ()) = .ok p ∧ (∀ m ∈ p.moments ts, m.Quiet) ∧
      startReport g {} :: p.reports ts =
        [ReconcileState.init, .ready, .initCreate, .locked].map
          (fun s => ⟨"apps/workers", s.name⟩) ∧
      (p.after ts).answer .state = .state .locked := by
  intro g p ts
  have started : start g {} (.ok ()) = .ok p := rfl
  have quiet : ∀ m ∈ p.moments ts, m.Quiet := by
    apply quiet_of_forall
    intro t ht f edited g
    simp only [ts, List.mem_cons, List.not_mem_nil, or_false] at ht
    obtain rfl | rfl | rfl | rfl | rfl := ht
    all_goals cases edited
    exact ⟨rfl, rfl, rfl⟩
  obtain ⟨told, state, -, -⟩ := status_and_sink_agree started quiet
  exact ⟨started, quiet, told, state⟩

end WorkerGroup.Pass
