/-
The group that is handed back.

What a pass hands back is stored, so it must not differ from what was handed in by more
than the pass is there to write. Starting a pass writes the status three times: the first
state, the provisioner and the type of the strategy. From then on every operation but an
edit leaves the group alone except for the state on its status (`group_reply_of_no_edit`),
and that is so of the operations that fail too: what a refused state leaves half done is
the status, which says the state, and nothing else.

So the group after a run without edits is the one the run started from with the state of
the last attempt on its status (`group_after_of_no_edits`), and at every moment on the way
it is that group with some state (`group_of_no_edits`).
-/
import WorkerGroup.Fixture
import WorkerGroup.Proofs.Pass.StateReports

set_option autoImplicit false

namespace WorkerGroup.Pass

/-- The operation changes the group in place. -/
def Operation.editsGroup : Operation → Bool
  | .editGroup _ => true
  | .ask _ | .setState _ | .discoverTransition | .ensureUnlocked | .setDiscovered _
  | .editDiscovered _ => false

/-! ## The frame of an operation -/

/-- **What is no edit changes nothing on the group but the state on its status.** -/
theorem group_reply_of_no_edit {m : Moment} (h : m.turn.operation.editsGroup = false) :
    m.reply.pass.group = m.pass.group.withState m.reply.pass.group.state := by
  rw [Moment.reply]
  cases attempt : m.attempt? with
  | some s =>
    obtain ⟨q, answer, group, reply⟩ := attempt_cases attempt m.turn.verdict
    rw [reply, ← group]
    rfl
  | none =>
    obtain same | ⟨f, edited, -⟩ := (step_of_no_attempt attempt m.turn.verdict).2
    · rw [same]
      rfl
    · rw [edited] at h
      cases h

/-! ## Runs without edits -/

section

variable {p : Pass} {ts : List Turn}

/-- A run without edits is quiet. -/
theorem quiet_of_no_edits (h : ∀ t ∈ ts, t.operation.editsGroup = false) :
    ∀ m ∈ p.moments ts, m.Quiet := by
  apply quiet_of_forall
  intro t ht f edited
  have unedited := h t ht
  rw [edited] at unedited
  cases unedited

/-- All through a run without edits the group is the one it was at the start, with some
state on its status. -/
theorem group_of_no_edits (h : ∀ t ∈ ts, t.operation.editsGroup = false) :
    (∀ m ∈ p.moments ts, m.pass.group = p.group.withState m.pass.group.state) ∧
      (p.after ts).group = p.group.withState (p.after ts).group.state := by
  refine moments_induction (I := fun q => q.group = p.group.withState q.group.state) rfl ?_
  intro m hm before
  have now := group_reply_of_no_edit (h m.turn (turn_mem_of_mem_moments hm))
  calc m.reply.pass.group
      = m.pass.group.withState m.reply.pass.group.state := now
    _ = (p.group.withState m.pass.group.state).withState m.reply.pass.group.state := by
        rw [← before]
    _ = p.group.withState m.reply.pass.group.state := rfl

/-- **After a run without edits** the status says the last attempt, and that is all that
has changed. -/
theorem group_after_of_no_edits (h : ∀ t ∈ ts, t.operation.editsGroup = false) :
    (p.after ts).group = p.group.withState ((p.attempts ts).getLastD p.group.state) := by
  rw [(group_of_no_edits h).2, state_after (quiet_of_no_edits h)]

end

/-- **The group is handed back as it was handed in**, but for three fields of its status:
the provisioner is written down, and the type of the strategy, empty if none is configured
and whatever the status said before, and the state of the last attempt, the first state if
there was none. What the sink took of it does not matter, and every operation may be part
of the run but an edit of the group. -/
theorem group_handed_back {g : InstanceGroup} {settings : Settings} {v : Verdict} {p : Pass}
    {ts : List Turn} (h : start g settings v = .ok p)
    (unedited : ∀ t ∈ ts, t.operation.editsGroup = false) :
    (p.after ts).group =
      { g with
        status :=
          { g.status with
            provisioner := "eks"
            strategy := (g.spec.strategy.map (·.kind)).getD ""
            currentState := (p.attempts ts).getLastD .init } } := by
  have strategy : g.upgradeStrategy.kind = (g.spec.strategy.map (·.kind)).getD "" := by
    rw [InstanceGroup.upgradeStrategy]
    cases g.spec.strategy with
    | none => rfl
    | some s => rfl
  rw [group_after_of_no_edits unedited, group_start h, ← strategy]
  rfl

/-- A group whose status is left over from another pass, and a run in which the sink
refuses a state and a transition: everything else of the status is handed back. -/
theorem group_handed_back_after_refusals :
    let left : GroupStatus :=
      { provisioner := "other", strategy := "crd", currentState := .ready,
        activeScalingGroupName := some "prod-kube-system-workers-a" }
    let g := { Fixture.strategy { kind := "rollingUpdate" } Fixture.anyGroup with status := left }
    let p := ((prepare g {}).recordState .init).edit stamp
    let down : Verdict := .error (.unavailable "down")
    let ts : List Turn :=
      [{ operation := .setState .reconcileModifying, verdict := down },
       { operation := .ask .userData },
       { operation := .setDiscovered { provisioned := true } },
       { operation := .discoverTransition, verdict := down }, { operation := .ask .instancePool }]
    start g {} (.ok ()) = .ok p ∧ (∀ t ∈ ts, t.operation.editsGroup = false) ∧
      (p.after ts).group =
        { g with
          status :=
            { provisioner := "eks", strategy := "rollingUpdate", currentState := .initUpdate,
              activeScalingGroupName := some "prod-kube-system-workers-a" } } := by
  intro left g p down ts
  have started : start g {} (.ok ()) = .ok p := rfl
  have unedited : ∀ t ∈ ts, t.operation.editsGroup = false := by
    simp [ts, Operation.editsGroup]
  exact ⟨started, unedited, group_handed_back started unedited⟩

end WorkerGroup.Pass
