/-
The kept OS family is never stale.

A pass resolves the family once and keeps it, and an edit of the group throws it away.
The group changes on two more paths, though: recording a state writes the status and
leaves the kept family where it is, and so does stamping the status when a pass starts.
That this is right rests on one invariant, `FamilyFresh`: what is kept, if anything is,
is what the group would resolve to now.

The invariant is stated for what the answers need and no more: it does not say *when*
the family was resolved, only that resolving it again would give the same. From it follow
the answers at every moment of a run, and that the whole run, results and what the sink
is told alike, is the run of a pass that keeps nothing (`run_eq_runForgetful`). What the
keeping does change is how often a warning is given, which is its purpose.
-/
import WorkerGroup.Proofs.Pass.Fixed

set_option autoImplicit false

namespace WorkerGroup.Pass

/-! ## The invariant -/

/-- What is kept, if anything is, is the family the group has now. -/
def FamilyFresh (p : Pass) : Prop :=
  ∀ family, p.family = some family → family = (OsFamily.ofGroup p.group).family

/-- With a fresh family the answer is that of the group itself. -/
theorem FamilyFresh.osFamily_eq {p : Pass} (h : p.FamilyFresh) :
    p.osFamily = (OsFamily.ofGroup p.group).family := by
  rw [osFamily]
  cases kept : p.family with
  | none => rfl
  | some family => exact h family kept

/-- Nothing is kept right after an edit. -/
theorem familyFresh_edit (f : InstanceGroup → InstanceGroup) (p : Pass) :
    (p.edit f).FamilyFresh := by
  intro family kept
  cases kept

theorem FamilyFresh.keepFamily {p : Pass} (h : p.FamilyFresh) : p.keepFamily.FamilyFresh := by
  intro family kept
  rw [← Option.some.inj kept]
  exact h.osFamily_eq

theorem FamilyFresh.afterQuery {p : Pass} (h : p.FamilyFresh) (query : Query) :
    (p.afterQuery query).FamilyFresh := by
  cases query with
  | osFamily | userData => exact h.keepFamily
  | instancePool | configurationsToPrune | discovered => exact h
  | scalingGroupTags | managedPolicies | state | isLocked | upgradeStrategy | groupName
  | group => exact h

/-- Recording a state leaves the kept family in place, and rightly so: the family depends
on annotations and stages, and a state is on the status. -/
theorem FamilyFresh.recordState {p : Pass} (h : p.FamilyFresh) (s : ReconcileState) :
    (p.recordState s).FamilyFresh :=
  h

/-- **No operation makes the kept family stale.** -/
theorem FamilyFresh.step {p : Pass} (h : p.FamilyFresh) (op : Operation) (v : Verdict) :
    (p.step op v).pass.FamilyFresh := by
  cases op with
  | ask query => exact h.afterQuery query
  | setState s => exact h.recordState s
  | discoverTransition =>
    rw [Pass.step]
    split
    · exact h
    · -- The snapshot is made first, and the family does not depend on that either.
      exact FamilyFresh.recordState (p := p.withSnapshot p.snapshot) h p.initialState
  | ensureUnlocked | setDiscovered _ | editDiscovered _ => exact h
  | editGroup f => exact familyFresh_edit f p

/-- A pass starts with nothing kept. -/
theorem familyFresh_start {g : InstanceGroup} {settings : Settings} {v : Verdict} {p : Pass}
    (h : start g settings v = .ok p) : p.FamilyFresh := by
  rw [eq_of_start h]
  exact familyFresh_edit stamp _

/-- **Whatever was done since a pass started, the kept family is fresh**, at every moment
and at the end. -/
theorem familyFresh_after {g : InstanceGroup} {settings : Settings} {v : Verdict} {p : Pass}
    (h : start g settings v = .ok p) (ts : List Turn) :
    (∀ m ∈ p.moments ts, m.pass.FamilyFresh) ∧ (p.after ts).FamilyFresh :=
  after_induction (fun _ op v hq => hq.step op v) (familyFresh_start h) ts

/-! ## A pass that keeps nothing -/

/-- The pass with what is kept thrown away. -/
def forgetFamily (p : Pass) : Pass :=
  { p with family := none }

/-- The replies of a run in which the family is resolved anew for every turn. -/
def runForgetful (p : Pass) : List Turn → List Reply
  | [] => []
  | t :: ts =>
    let reply := p.forgetFamily.step t.operation t.verdict
    reply :: runForgetful reply.pass ts

/-- What a caller and the sink see of a reply. -/
def Reply.visible (r : Reply) : Except PassFailure Answer × List StateReport :=
  (r.result, r.reports)

theorem FamilyFresh.osFamily_forgetFamily {p : Pass} (h : p.FamilyFresh) :
    p.forgetFamily.osFamily = p.osFamily :=
  h.osFamily_eq.symm

theorem FamilyFresh.answer_forgetFamily {p : Pass} (h : p.FamilyFresh) (query : Query) :
    p.forgetFamily.answer query = p.answer query := by
  cases query with
  | osFamily => exact congrArg Answer.family h.osFamily_forgetFamily
  | userData =>
    have same : p.forgetFamily.userData = p.userData := by
      rw [userData, userData, h.osFamily_forgetFamily]
      rfl
    exact congrArg Answer.parameters same
  | instancePool | scalingGroupTags | managedPolicies | configurationsToPrune | discovered
  | state | isLocked | upgradeStrategy | groupName | group => rfl

theorem forgetFamily_afterQuery (p : Pass) (query : Query) :
    (p.forgetFamily.afterQuery query).forgetFamily = (p.afterQuery query).forgetFamily := by
  cases query <;> rfl

/-- One turn of the two passes: they show the same and stay equal but for what is kept. -/
theorem FamilyFresh.step_forgetFamily {p : Pass} (h : p.FamilyFresh) (op : Operation)
    (v : Verdict) :
    (p.forgetFamily.step op v).visible = (p.step op v).visible ∧
      (p.forgetFamily.step op v).pass.forgetFamily = (p.step op v).pass.forgetFamily := by
  cases op with
  | ask query =>
    refine ⟨?_, forgetFamily_afterQuery p query⟩
    exact congrArg (fun a => ((.ok a : Except PassFailure Answer), []))
      (h.answer_forgetFamily query)
  | discoverTransition =>
    have locked : p.forgetFamily.group.isLocked = p.group.isLocked := rfl
    rw [Pass.step, Pass.step, locked]
    split
    · exact ⟨rfl, rfl⟩
    · exact ⟨rfl, rfl⟩
  | setState _ | ensureUnlocked | setDiscovered _ | editDiscovered _ | editGroup _ =>
    exact ⟨rfl, rfl⟩

/-- **Keeping the family shows nowhere**: not in a result and not at the sink. -/
theorem FamilyFresh.run_eq_runForgetful {p : Pass} (h : p.FamilyFresh) (ts : List Turn) :
    (p.run ts).map Reply.visible = (p.runForgetful ts).map Reply.visible := by
  -- The two runs are at passes that differ in what is kept from the second turn on, so
  -- the induction is on pairs of passes that are equal but for that.
  suffices ∀ q : Pass, q.forgetFamily = p.forgetFamily →
      (p.run ts).map Reply.visible = (q.runForgetful ts).map Reply.visible from this p rfl
  induction ts generalizing p with
  | nil => exact fun _ _ => rfl
  | cons t ts ih =>
    intro q hq
    obtain ⟨visible, pass⟩ := h.step_forgetFamily t.operation t.verdict
    rw [run, runForgetful, List.map_cons, List.map_cons, hq, visible]
    congr 1
    exact ih (h.step t.operation t.verdict) _ pass

/-! ## What is answered -/

/-- The cluster a snapshot knows; the one of which nothing is known when there is no
snapshot or it has no cluster. -/
def knownCluster : Option DiscoveredState → ClusterInfo
  | none => {}
  | some d =>
    match d.cluster with
    | none => {}
    | some cluster => cluster

/-- The offerings a snapshot lists, none when there is no snapshot. -/
def knownOfferings : Option DiscoveredState → List Offering
  | none => []
  | some d => d.offerings

theorem bootstrapInputs_eq (p : Pass) :
    p.bootstrapInputs =
      { cluster := knownCluster p.discovered
        offering := (knownOfferings p.discovered).find? fun o =>
          o.instanceType == p.group.configuration.instanceType
        disableWindowsClusterIp := p.disableWindowsClusterIp } := by
  cases discovered : p.discovered with
  | none => simp [bootstrapInputs, knownCluster, knownOfferings, discovered]
  | some d =>
    cases cluster : d.cluster <;>
      simp [bootstrapInputs, knownCluster, knownOfferings, DiscoveredState.offering?, discovered,
        cluster]

/-- With a fresh family the parameters are those of the group and its family as they are
now. -/
theorem FamilyFresh.userData_eq {p : Pass} (h : p.FamilyFresh) :
    p.userData =
      Bootstrap.resolve p.group (OsFamily.ofGroup p.group).family
        { cluster := knownCluster p.discovered
          offering := (knownOfferings p.discovered).find? fun o =>
            o.instanceType == p.group.configuration.instanceType
          disableWindowsClusterIp := p.disableWindowsClusterIp } := by
  rw [userData, h.osFamily_eq, bootstrapInputs_eq]

/-- **The kept family never changes an answer.** Whenever the family is asked for, the
answer is what the group's annotations and stages resolve to at that moment. Whenever the
bootstrap parameters are asked for, they are resolved from the group as it is then, that
family, the cluster of the snapshot there is then and the first offering under the
group's instance type. And the whole run shows what it would show if nothing were kept. -/
theorem answers_current_at_every_moment {g : InstanceGroup} {settings : Settings} {v : Verdict}
    {p : Pass} (h : start g settings v = .ok p) (ts : List Turn) :
    (∀ m ∈ p.moments ts, m.turn.operation = .ask .osFamily →
      m.reply.result = .ok (.family
        (OsFamily.resolve m.pass.group.annotations m.pass.group.configuration.userData).family)) ∧
    (∀ m ∈ p.moments ts, m.turn.operation = .ask .userData →
      m.reply.result = .ok (.parameters
        (Bootstrap.resolve m.pass.group
          (OsFamily.resolve m.pass.group.annotations m.pass.group.configuration.userData).family
          { cluster := knownCluster m.pass.discovered
            offering := (knownOfferings m.pass.discovered).find? fun o =>
              o.instanceType == m.pass.group.configuration.instanceType
            disableWindowsClusterIp := settings.disableWindowsClusterIp }))) ∧
    (p.run ts).map Reply.visible = (p.runForgetful ts).map Reply.visible := by
  have fresh := familyFresh_after h ts
  refine ⟨fun m hm asked => ?_, fun m hm asked => ?_, (familyFresh_start h).run_eq_runForgetful ts⟩
  · have family := (fresh.1 m hm).osFamily_eq
    rw [Moment.reply, asked]
    exact congrArg (fun f => Except.ok (Answer.family f)) family
  · have parameters := (fresh.1 m hm).userData_eq
    -- The switch for Windows nodes is not read off the settings again: it is the one that
    -- was taken down when the pass started.
    have fixed := ((fixedPart_after p ts).1 m hm).trans (fixedPart_start h)
    have switch : m.pass.disableWindowsClusterIp = settings.disableWindowsClusterIp :=
      congrArg (fun part => part.2.2) fixed
    rw [switch] at parameters
    rw [Moment.reply, asked]
    exact congrArg (fun r => Except.ok (Answer.parameters r)) parameters

/-- A family that was kept, a state the sink refused and an edit that renames the family:
the family after the edit is the new one. -/
theorem answers_current_after_edit :
    let g := InstanceGroup.named "apps" "workers"
    let p := ((prepare g {}).recordState .init).edit stamp
    let ts : List Turn :=
      [{ operation := .ask .osFamily },
       { operation := .setState .ready, verdict := .error (.unavailable "down") },
       { operation := .ask .userData },
       { operation := .editGroup fun g => g.annotate Annotations.osFamilyKey "Windows" },
       { operation := .ask .osFamily }]
    start g {} (.ok ()) = .ok p ∧
      (∀ m ∈ p.moments ts, m.turn.operation = .ask .osFamily →
        m.reply.result = .ok (.family (OsFamily.resolve m.pass.group.annotations
          m.pass.group.configuration.userData).family)) ∧
      (p.run ts).map Reply.visible = (p.runForgetful ts).map Reply.visible := by
  intro g p ts
  have started : start g {} (.ok ()) = .ok p := rfl
  obtain ⟨families, -, visible⟩ := answers_current_at_every_moment started ts
  exact ⟨started, families, visible⟩

end WorkerGroup.Pass
