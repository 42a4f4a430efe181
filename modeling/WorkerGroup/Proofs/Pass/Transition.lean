/-
The transition of a pass: refused, recorded, or recorded and reported as failed.

A transition records the state the pass starts from. The lock is asked first, before
anything is read or written, so a transition that is refused leaves the pass as it was and
the sink untold (`transition_of_locked`). Otherwise the state is on the status whatever the
sink says to it, and what the sink says shows in the result alone
(`transition_of_unlocked`).

What comes of a transition depends on three things: whether the group is locked, what it is
called, and the state that is derived. A state on the status is none of them. So recordings
and transitions leave a pass with the `SameStart`, and by the induction over moments every
transition among them comes out as it would have before the first
(`sameStart_of_recordings`).
-/
import WorkerGroup.Fixture
import WorkerGroup.Proofs.Pass.FamilyCache

set_option autoImplicit false

namespace WorkerGroup.Pass

/-! ## What a transition depends on -/

/-- Transitions of two passes are refused alike, derive the same state and report it under
the same name. -/
structure SameStart (p q : Pass) : Prop where
  locked : q.group.isLocked = p.group.isLocked
  groupName : q.group.groupName = p.group.groupName
  initialState : q.initialState = p.initialState

/-- **What a caller and the sink see of a transition** is settled by the lock, the name and
the state that is derived. -/
theorem SameStart.visible {p q : Pass} {v : Verdict} (h : p.SameStart q) :
    (q.step .discoverTransition v).visible = (p.step .discoverTransition v).visible := by
  by_cases locked : p.group.isLocked = true
  · rw [transition_of_locked locked, transition_of_locked (h.locked.trans locked), h.groupName]
    rfl
  · rw [Bool.not_eq_true] at locked
    have reported : q.stateReport p.initialState = p.stateReport p.initialState := by
      rw [stateReport, stateReport, h.groupName]
    rw [transition_of_unlocked locked, transition_of_unlocked (h.locked.trans locked),
      h.initialState]
    -- The result is the same as it stands, since it does not mention the pass.
    exact congrArg (fun report => (_, [report])) reported

/-! ## Recordings in between -/

/-- The operation records a state, or sets out to. -/
def Operation.recordsState : Operation → Bool
  | .setState _ | .discoverTransition => true
  | .ask _ | .ensureUnlocked | .setDiscovered _ | .editDiscovered _ | .editGroup _ => false

/-- Recording a state changes nothing a transition depends on. -/
theorem sameStart_step {op : Operation} (h : op.recordsState = true) (p : Pass) (v : Verdict) :
    p.SameStart (p.step op v).pass := by
  cases op with
  | setState s => exact ⟨rfl, rfl, rfl⟩
  | discoverTransition =>
    by_cases locked : p.group.isLocked = true
    · rw [transition_of_locked locked]
      exact ⟨rfl, rfl, rfl⟩
    · -- The snapshot that is made is the one that was read.
      rw [transition_of_unlocked (Bool.not_eq_true _ ▸ locked)]
      exact ⟨rfl, rfl, rfl⟩
  | ask _ | ensureUnlocked | setDiscovered _ | editDiscovered _ | editGroup _ => cases h

/-- All through a run of recordings and transitions, a transition comes out as it would have
at its start. -/
theorem sameStart_of_recordings {p : Pass} {ts : List Turn}
    (h : ∀ t ∈ ts, t.operation.recordsState = true) :
    ∀ m ∈ p.moments ts, p.SameStart m.pass := by
  refine (moments_induction (I := p.SameStart) ⟨rfl, rfl, rfl⟩ ?_).1
  intro m hm before
  have now := sameStart_step (h m.turn (turn_mem_of_mem_moments hm)) m.pass m.turn.verdict
  exact ⟨now.locked.trans before.locked, now.groupName.trans before.groupName,
    now.initialState.trans before.initialState⟩

/-- **A transition is refused and does nothing, or it is recorded, whatever the sink says.**
In any state of a pass:

- while the group is locked the transition fails with the name of the group, the pass is
  what it was, and the sink is told nothing;
- otherwise the sink is told one state, the one that is derived from the snapshot, the empty
  one if there is none, and the deletion mark; that state is on the status, and apart from
  it the group, the snapshot that is answered, the family that is kept and what was fixed at
  the start are what they were; the transition succeeds with that state if the sink takes it
  and fails with the sink's cause if not;
- among any further transitions and recordings of states, taken or refused, every
  transition derives the same state, and comes out as it would have in their place. -/
theorem transition_refused_or_recorded (p : Pass) (v : Verdict) :
    let r := p.step .discoverTransition v
    let s := (p.discovered.getD {}).initialState p.group.metadata.deletionTimestamp.isSome
    (p.group.isLocked = true →
      r.result = .error (.locked p.group.groupName) ∧ r.pass = p ∧ r.reports = []) ∧
    (p.group.isLocked = false →
      r.reports = [⟨p.group.groupName.text, s.name⟩] ∧
      r.pass =
        { p with
          group := { p.group with status := { p.group.status with currentState := s } }
          discovered := some (p.discovered.getD {}) } ∧
      r.pass.answer .discovered = p.answer .discovered ∧
      (v = .ok () → r.result = .ok (.state s)) ∧
      ∀ cause, v = .error cause → r.result = .error (.sink cause)) ∧
    ∀ ts, (∀ t ∈ ts, t.operation.recordsState = true) →
      ∀ m ∈ p.moments ts, m.turn.operation = .discoverTransition →
        m.pass.initialState = s ∧
        m.reply.visible = (p.step .discoverTransition m.turn.verdict).visible := by
  intro r s
  refine ⟨fun locked => ?_, fun unlocked => ?_, fun ts recordings m hm again => ?_⟩
  · have refused : r = _ := transition_of_locked locked
    rw [refused]
    exact ⟨rfl, rfl, rfl⟩
  · have recorded : r = _ := transition_of_unlocked unlocked
    rw [recorded]
    refine ⟨rfl, rfl, rfl, ?_, ?_⟩
    · rintro rfl
      rfl
    · rintro cause rfl
      rfl
  · have same := sameStart_of_recordings recordings m hm
    refine ⟨same.initialState, ?_⟩
    rw [Moment.reply, again]
    exact same.visible

/-- A group that is marked for deletion, and a scaling group on its way out. The sink is down
at the first transition and another state is recorded before the second: both derive the
same. Once the group is locked the transition is refused and leaves the pass as it is. -/
theorem transition_recorded_then_refused :
    let marked : Instant :=
      { date := ⟨2024, 5, 1⟩, hour := 12, minute := 30, second := 0, nanosecond := 0
        date_exists := by decide, hour_lt := by decide, minute_lt := by decide
        second_le := by decide, nanosecond_lt := by decide }
    let leaving : ScalingGroup :=
      { name := "prod-kube-system-workers-a", minSize := 1, maxSize := 3, desiredCapacity := 0
        status := some "Delete in progress", instanceIds := [] }
    let g := Fixture.deleting marked Fixture.anyGroup
    let p := (((prepare g {}).recordState .init).edit stamp).withSnapshot
      { provisioned := true, scalingGroup := some leaving }
    let held := p.edit (Fixture.locked true)
    let down : Verdict := .error (.unavailable "down")
    let ts : List Turn :=
      [{ operation := .discoverTransition, verdict := down }, { operation := .setState .ready },
       { operation := .discoverTransition }]
    p.group.isLocked = false ∧
      (p.step .discoverTransition down).reports = [⟨"kube-system/workers-a", "Deleting"⟩] ∧
      (p.step .discoverTransition down).result = .error (.sink (.unavailable "down")) ∧
      (∀ t ∈ ts, t.operation.recordsState = true) ∧
      (∀ m ∈ p.moments ts, m.turn.operation = .discoverTransition →
        m.pass.initialState = .deleting) ∧
      held.group.isLocked = true ∧
      (held.step .discoverTransition down).result =
        .error (.locked ⟨"kube-system", "workers-a"⟩) ∧
      (held.step .discoverTransition down).pass = held := by
  intro marked leaving g p held down ts
  have recordings : ∀ t ∈ ts, t.operation.recordsState = true := by
    simp [ts, Operation.recordsState]
  obtain ⟨-, recorded, among⟩ := transition_refused_or_recorded p down
  obtain ⟨refused, -, -⟩ := transition_refused_or_recorded held down
  obtain ⟨told, -, -, -, failed⟩ := recorded rfl
  obtain ⟨lock, same, -⟩ := refused rfl
  exact ⟨rfl, told, failed (.unavailable "down") rfl, recordings,
    fun m hm again => (among ts recordings m hm again).1, rfl, lock, same⟩

end WorkerGroup.Pass
