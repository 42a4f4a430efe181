/-
Asking leaves traces, and no answer but one depends on them.

Three things are written behind a caller's back. The family is kept once it was resolved,
the snapshot is made when something is read from it, and the pool is written down on it.
A query leaves at most one such `Trace`; leaving one after the other is leaving both at
once (`leave_leave`), so what a list of queries leaves is settled by which queries are in
it, and neither by their order nor by how often they were asked (`after_asking`).

No answer but the snapshot itself depends on a trace (`answer_leave`). The family that was
kept is the one that would be answered anyway; a snapshot that was made is the empty one,
which says what no snapshot says; the pool on the snapshot is read by nobody else. This
holds in every state of a pass, so nothing is asked of how the state was reached.
-/
import WorkerGroup.Fixture
import WorkerGroup.Proofs.Pass.Moments
import WorkerGroup.Report

set_option autoImplicit false

namespace WorkerGroup.Pass

/-! ## Traces -/

/-- What asking may leave behind. -/
structure Trace where
  /-- The family is kept. -/
  family : Bool := false
  /-- The snapshot is made. -/
  snapshot : Bool := false
  /-- The pool is written down on the snapshot. -/
  pool : Bool := false

/-- Two traces at once. -/
def Trace.join (a b : Trace) : Trace :=
  ⟨a.family || b.family, a.snapshot || b.snapshot, a.pool || b.pool⟩

/-- The trace of a query. -/
def Query.trace : Query → Trace
  | .osFamily | .userData => { family := true }
  | .instancePool => { pool := true }
  | .configurationsToPrune | .discovered => { snapshot := true }
  | .scalingGroupTags | .managedPolicies | .state | .isLocked | .upgradeStrategy
  | .groupName | .group => {}

/-- The snapshot with the pool of the group on it. -/
def snapshotWithPool (p : Pass) : DiscoveredState :=
  { p.snapshot with instancePool := p.instancePool }

/-- The pass with a trace left on it. -/
def leave (t : Trace) (p : Pass) : Pass :=
  { p with
    family := if t.family then some p.osFamily else p.family
    discovered :=
      if t.pool then some p.snapshotWithPool
      else if t.snapshot then some p.snapshot
      else p.discovered }

theorem afterQuery_eq_leave (p : Pass) (query : Query) :
    p.afterQuery query = p.leave query.trace := by
  cases query <;> rfl

/-! ## What a trace does not change -/

/-- The family that is kept is the one that would be answered anyway. -/
theorem osFamily_leave (t : Trace) (p : Pass) : (p.leave t).osFamily = p.osFamily := by
  rw [osFamily, leave]
  cases t.family with
  | true => rfl
  | false => rfl

/-- Making the snapshot is not seen on it, since no snapshot and the empty one are read
alike; writing the pool down is. -/
theorem snapshot_leave (t : Trace) (p : Pass) :
    (p.leave t).snapshot = if t.pool then p.snapshotWithPool else p.snapshot := by
  rw [snapshot, leave]
  cases t.pool with
  | true => rfl
  | false =>
    cases t.snapshot with
    | true => rfl
    | false => rfl

theorem instancePool_leave (t : Trace) (p : Pass) : (p.leave t).instancePool = p.instancePool := by
  rw [instancePool, snapshot_leave]
  cases t.pool with
  | true => rfl
  | false => rfl

theorem snapshotWithPool_leave (t : Trace) (p : Pass) :
    (p.leave t).snapshotWithPool = p.snapshotWithPool := by
  rw [snapshotWithPool, snapshot_leave, instancePool_leave]
  cases t.pool with
  | true => rfl
  | false => rfl

/-- The bootstrap parameters read the snapshot, and not whether there is one. -/
theorem bootstrapInputs_eq_of_snapshot (p : Pass) :
    p.bootstrapInputs =
      { cluster := p.snapshot.cluster.getD {}
        offering := p.snapshot.offering? p.group.configuration.instanceType
        disableWindowsClusterIp := p.disableWindowsClusterIp } := by
  rw [bootstrapInputs, snapshot]
  cases p.discovered with
  | none => rfl
  | some d => rfl

theorem bootstrapInputs_leave (t : Trace) (p : Pass) :
    (p.leave t).bootstrapInputs = p.bootstrapInputs := by
  rw [bootstrapInputs_eq_of_snapshot, bootstrapInputs_eq_of_snapshot, snapshot_leave]
  cases t.pool with
  | true => rfl
  | false => rfl

theorem userData_leave (t : Trace) (p : Pass) : (p.leave t).userData = p.userData := by
  rw [userData, osFamily_leave, bootstrapInputs_leave]
  rfl

theorem configurationsToPrune_leave (t : Trace) (p : Pass) :
    (p.leave t).configurationsToPrune = p.configurationsToPrune := by
  rw [configurationsToPrune, snapshot_leave]
  cases t.pool with
  | true => rfl
  | false => rfl

/-- **No answer but the snapshot itself depends on a trace.** -/
theorem answer_leave {query : Query} (h : query ≠ .discovered) (t : Trace) (p : Pass) :
    (p.leave t).answer query = p.answer query := by
  cases query with
  | osFamily => rw [answer, osFamily_leave, answer]
  | userData => rw [answer, userData_leave, answer]
  | instancePool => rw [answer, instancePool_leave, answer]
  | configurationsToPrune => rw [answer, configurationsToPrune_leave, answer]
  | discovered => exact absurd rfl h
  | scalingGroupTags | managedPolicies | state | isLocked | upgradeStrategy | groupName
  | group => rfl

/-- **One trace after another is both at once.** What the second writes is not changed by
the first, and of two writes to the snapshot the one with the pool stays. -/
theorem leave_leave (a b : Trace) (p : Pass) : (p.leave a).leave b = p.leave (a.join b) := by
  have family : ((p.leave a).leave b).family = (p.leave (a.join b)).family := by
    rw [leave, osFamily_leave, leave, leave, Trace.join]
    cases a.family <;> cases b.family <;> rfl
  have discovered : ((p.leave a).leave b).discovered = (p.leave (a.join b)).discovered := by
    rw [leave, snapshotWithPool_leave, snapshot_leave, leave, leave, Trace.join]
    cases a.pool <;> cases b.pool <;> cases a.snapshot <;> cases b.snapshot <;> rfl
  calc (p.leave a).leave b
      = { p with family := ((p.leave a).leave b).family,
                 discovered := ((p.leave a).leave b).discovered } := rfl
    _ = p.leave (a.join b) := by rw [family, discovered]; rfl

/-! ## Lists of queries -/

/-- The turns that ask some queries. The sink is told nothing, so what it would say to it
does not matter. -/
def asking (queries : List Query) : List Turn :=
  queries.map fun query => { operation := .ask query }

/-- What some queries leave together. -/
def Trace.ofQueries (queries : List Query) : Trace :=
  ⟨queries.any (·.trace.family), queries.any (·.trace.snapshot), queries.any (·.trace.pool)⟩

/-- **What a list of queries leaves is the join of their traces.** -/
theorem after_asking (p : Pass) (queries : List Query) :
    p.after (asking queries) = p.leave (Trace.ofQueries queries) := by
  induction queries generalizing p with
  | nil => rfl
  | cons query queries ih =>
    have first : (p.step (.ask query) (.ok ())).pass = p.leave query.trace :=
      afterQuery_eq_leave p query
    rw [asking, List.map_cons, after_cons, first, ← asking, ih, leave_leave]
    rfl

/-- Neither the order of the queries matters nor, by the same token, their number. -/
theorem Trace.ofQueries_perm {queries others : List Query} (h : queries.Perm others) :
    ofQueries others = ofQueries queries := by
  rw [ofQueries, ofQueries, h.any_eq, h.any_eq, h.any_eq]

/-- The pool is written down exactly when it was asked for. -/
theorem Trace.pool_ofQueries_iff {queries : List Query} :
    (ofQueries queries).pool = true ↔ .instancePool ∈ queries := by
  have only : ∀ query : Query, query.trace.pool = true ↔ query = .instancePool := by
    intro query
    cases query <;> simp [Query.trace]
  rw [ofQueries, List.any_eq_true]
  constructor
  · rintro ⟨query, asked, writes⟩
    rwa [(only query).1 writes] at asked
  · intro asked
    exact ⟨.instancePool, asked, rfl⟩

/-- Queries tell the sink nothing. -/
theorem reports_asking (p : Pass) (queries : List Query) : p.reports (asking queries) = [] := by
  induction queries generalizing p with
  | nil => rfl
  | cons query queries ih =>
    rw [reports, asking, List.map_cons, run, List.flatMap_cons]
    exact ih _

/-- Queries that are asked one after the other answer as if each were asked alone, the
snapshot apart. -/
theorem results_asking (p : Pass) {queries : List Query} (h : .discovered ∉ queries) :
    (p.run (asking queries)).map (·.result) = queries.map fun query => .ok (p.answer query) := by
  induction queries generalizing p with
  | nil => rfl
  | cons query queries ih =>
    rw [List.mem_cons, not_or] at h
    have later : ∀ other ∈ queries, (p.afterQuery query).answer other = p.answer other := by
      intro other asked
      rw [afterQuery_eq_leave]
      exact answer_leave (fun same => h.2 (same ▸ asked)) query.trace p
    rw [asking, List.map_cons, run, List.map_cons, List.map_cons]
    congr 1
    exact (ih (p.afterQuery query) h.2).trans
      (List.map_congr_left fun other asked => congrArg Except.ok (later other asked))

/-! ## Asking does not disturb a pass -/

/-- The names of the group's resources, that of a launch configuration made at an instant
among them. They are read without leaving a trace. -/
def resourceNames (p : Pass) (t : Instant) : List String :=
  [p.resourcePrefix, p.scalingGroupName, p.launchTemplateName, p.roleName,
    p.launchConfigurationName t]

/-- **Queries commute and do not disturb the pass.** In any state of a pass and after any
queries, whichever and however often:

- a query other than that for the snapshot answers what it would have answered first and
  alone, and the names of the resources are what they were;
- the group is what it was, the state on its status with it, and the sink was told nothing;
- the snapshot is what it was, the empty one when there was none, but for the pool on it,
  which is that of the group as soon as the pool was asked for;
- the same queries in another order leave the same pass. -/
theorem queries_do_not_disturb (p : Pass) (asked : List Query) :
    let q := p.after (asking asked)
    (∀ query v, query ≠ .discovered →
      (q.step (.ask query) v).result = (p.step (.ask query) v).result) ∧
    (∀ t, q.resourceNames t = p.resourceNames t) ∧
    q.group = p.group ∧
    p.reports (asking asked) = [] ∧
    (.instancePool ∉ asked → q.answer .discovered = .snapshot (p.discovered.getD {})) ∧
    (.instancePool ∈ asked → q.answer .discovered =
      .snapshot { p.discovered.getD {} with instancePool := p.instancePool }) ∧
    ∀ others, asked.Perm others → p.after (asking others) = q := by
  intro q
  have left : q = p.leave (Trace.ofQueries asked) := after_asking p asked
  have snapshot : q.snapshot =
      if (Trace.ofQueries asked).pool then p.snapshotWithPool else p.snapshot := by
    rw [left, snapshot_leave]
  refine ⟨fun query v h => ?_, fun t => ?_, ?_, reports_asking p asked, fun unasked => ?_,
    fun poolAsked => ?_, fun others h => ?_⟩
  · rw [left]
    exact congrArg Except.ok (answer_leave h (Trace.ofQueries asked) p)
  · rw [left]
    rfl
  · rw [left]
    rfl
  · rw [if_neg (mt Trace.pool_ofQueries_iff.1 unasked)] at snapshot
    exact congrArg Answer.snapshot snapshot
  · rw [if_pos (Trace.pool_ofQueries_iff.2 poolAsked)] at snapshot
    exact congrArg Answer.snapshot snapshot
  · rw [left, after_asking, Trace.ofQueries_perm h]

/-- A pass that was handed no snapshot, asked for its family, its pool, what to prune and
its pool again: the parameters are those of the fresh pass, and the snapshot is the empty
one with the pool of the types that are listed. -/
theorem queries_do_not_disturb_without_snapshot :
    let g := Fixture.mixedInstanceTypes [{ kind := "m5.large" }] Fixture.anyGroup
    let p := ((prepare g {}).recordState .init).edit stamp
    let asked : List Query := [.osFamily, .instancePool, .configurationsToPrune, .instancePool]
    let q := p.after (asking asked)
    start g {} (.ok ()) = .ok p ∧ Query.userData ≠ .discovered ∧
      (q.step (.ask .userData) (.ok ())).result = (p.step (.ask .userData) (.ok ())).result ∧
      .instancePool ∈ asked ∧
      q.answer .discovered = .snapshot
        { instancePool := InstancePool.ofInstanceTypes .subFamilyFlexible "m5.large"
            [{ kind := "m5.large" }] } := by
  intro g p asked q
  have userData : Query.userData ≠ .discovered := nofun
  have poolAsked : .instancePool ∈ asked := by simp [asked]
  obtain ⟨alone, -, -, -, -, snapshot, -⟩ := queries_do_not_disturb p asked
  exact ⟨rfl, userData, alone .userData (.ok ()) userData, poolAsked, snapshot poolAsked⟩

end WorkerGroup.Pass

/-! ## Reports -/

namespace WorkerGroup.Report

open WorkerGroup.Pass

/-- The queries a report is made of, in the order they are asked. -/
def queries : List Query :=
  [.group, .state, .isLocked, .osFamily, .upgradeStrategy, .managedPolicies, .scalingGroupTags,
    .userData, .instancePool]

/-- **A report is of one moment.** Its queries are asked one after the other, and each of
them answers what the pass the first was asked of would have answered; the pass is left as
`passAfter` says. -/
theorem ofPass_eq_answers (p : Pass) (t : Instant) :
    let r := ofPass p t
    (p.run (asking queries)).map (·.result) =
      [.ok (.group p.group), .ok (.state r.state), .ok (.flag r.locked), .ok (.family r.osFamily),
        .ok (.strategy p.group.spec.strategy.isSome p.group.upgradeStrategy),
        .ok (.names r.managedPolicies), .ok (.tags r.tags), .ok (.parameters r.userData),
        .ok (.pool r.instancePool)] ∧
    p.after (asking queries) = passAfter p := by
  intro r
  have other : .discovered ∉ queries := by simp [queries]
  exact ⟨results_asking p other, after_asking p queries⟩

end WorkerGroup.Report
