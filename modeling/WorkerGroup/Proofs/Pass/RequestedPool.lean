/-
Which pool a pass answers.

Three optional things are looked at: whether the group mixes instance types at all, which types
it lists, and which kind of pool it names. A list that is not empty settles the matter. The
kind is looked up before that, but a name that is no kind is not a mistake, it is no name, and
the list is used all the same; only without a list does it decide whether there is a pool
(`poolOf_eq_some_iff`).

A derived pool is made of the offerings on the snapshot as it stands. Two operations write
these, one that replaces the snapshot and one that changes it in place (`offerings_reply`), so
they are the ones that were last written, however long ago, and none if that never happened
(`offerings_after_of_quiet`).
-/
import WorkerGroup.Fixture
import WorkerGroup.Proofs.Pass.Snapshot

set_option autoImplicit false

namespace WorkerGroup

/-! ## What is asked for -/

theorem PoolKind.ofName?_eq_some_iff {name : String} {kind : PoolKind} :
    ofName? name = some kind ↔ name = "SubFamilyFlexible" := by
  cases kind
  unfold ofName?
  split
  · rename_i same
    exact iff_of_true rfl same
  · rename_i other
    exact iff_of_false nofun other

/-- The pool that a node configuration asks for, over some offerings. -/
inductive RequestedPool (c : NodeConfiguration) (offerings : List Offering) : InstancePool → Prop
  | listed {policy : MixedInstancesPolicy} (mixed : c.mixedInstancesPolicy = some policy)
      (some_type : policy.instanceTypes ≠ []) :
      RequestedPool c offerings
        ⟨.subFamilyFlexible,
          .ofList [(c.instanceType, policy.instanceTypes.map fun t => ⟨t.kind, t.weight⟩)]⟩
  | derived {policy : MixedInstancesPolicy} (mixed : c.mixedInstancesPolicy = some policy)
      (no_type : policy.instanceTypes = []) (named : policy.instancePool = some "SubFamilyFlexible") :
      RequestedPool c offerings (.subFamilyFlexible offerings)

namespace Pass

variable {c : NodeConfiguration} {offerings : List Offering} {pool : InstancePool}
  {policy : MixedInstancesPolicy}

theorem poolOf_of_listed (mixed : c.mixedInstancesPolicy = some policy)
    (some_type : policy.instanceTypes ≠ []) :
    poolOf c offerings = some ⟨.subFamilyFlexible,
      .ofList [(c.instanceType, policy.instanceTypes.map fun t => ⟨t.kind, t.weight⟩)]⟩ := by
  have filled : policy.instanceTypes.isEmpty = false := List.isEmpty_eq_false_iff.2 some_type
  rw [poolOf, mixed, Option.bind_some]
  simp only [filled, Bool.false_eq_true, if_false]
  -- There is one kind, so the pool has it whatever the name was read as.
  cases policy.instancePool.bind PoolKind.ofName? with
  | none => rfl
  | some kind => cases kind; rfl

theorem poolOf_of_unlisted (mixed : c.mixedInstancesPolicy = some policy)
    (no_type : policy.instanceTypes = []) :
    poolOf c offerings =
      if policy.instancePool = some "SubFamilyFlexible" then some (.subFamilyFlexible offerings)
      else none := by
  rw [poolOf, mixed, Option.bind_some]
  simp only [no_type, List.isEmpty_nil, if_true]
  by_cases named : policy.instancePool = some "SubFamilyFlexible"
  · rw [if_pos named, named]
    rfl
  · have unread : policy.instancePool.bind PoolKind.ofName? = none := by
      rw [Option.bind_eq_none_iff]
      intro name written
      rw [Option.eq_none_iff_forall_ne_some]
      intro kind read
      rw [written, PoolKind.ofName?_eq_some_iff.1 read] at named
      exact named rfl
    rw [if_neg named, unread]
    rfl

/-- **The pool is the one that is asked for**, and there is none when none is asked for. -/
theorem poolOf_eq_some_iff : poolOf c offerings = some pool ↔ RequestedPool c offerings pool := by
  constructor
  · intro answered
    cases mixed : c.mixedInstancesPolicy with
    | none =>
      rw [poolOf, mixed] at answered
      cases answered
    | some policy =>
      by_cases no_type : policy.instanceTypes = []
      · rw [poolOf_of_unlisted mixed no_type] at answered
        split at answered
        · rename_i named
          cases answered
          exact .derived mixed no_type named
        · cases answered
      · rw [poolOf_of_listed mixed no_type] at answered
        cases answered
        exact .listed mixed no_type
  · rintro (⟨mixed, some_type⟩ | ⟨mixed, no_type, named⟩)
    · exact poolOf_of_listed mixed some_type
    · rw [poolOf_of_unlisted mixed no_type, if_pos named]

/-! ## The offerings that are known -/

/-- The turn neither hands a snapshot in nor changes the one there is. -/
def Turn.LeavesOfferings (t : Turn) : Prop :=
  t.given? = none ∧ ¬ t.EditsSnapshot

/-- **What a turn does to the offerings.** -/
theorem offerings_reply (m : Moment) :
    m.reply.pass.snapshot.offerings =
      match m.turn.operation with
      | .setDiscovered d => d.offerings
      | .editDiscovered f => (f m.pass.snapshot).offerings
      | .ask _ | .setState _ | .discoverTransition | .ensureUnlocked | .editGroup _ =>
        m.pass.snapshot.offerings := by
  by_cases edits : m.turn.EditsSnapshot
  · obtain ⟨p, ⟨op, v⟩⟩ := m
    obtain ⟨f, rfl⟩ : ∃ f, op = .editDiscovered f := edits
    rfl
  · rw [snapshot_reply edits]
    obtain ⟨p, ⟨op, v⟩⟩ := m
    cases op with
    | editDiscovered f => exact absurd ⟨f, rfl⟩ edits
    | ask _ | setState _ | discoverTransition | ensureUnlocked | setDiscovered _ | editGroup _ => rfl

theorem offerings_reply_of_quiet {m : Moment} (quiet : m.turn.LeavesOfferings) :
    m.reply.pass.snapshot.offerings = m.pass.snapshot.offerings := by
  rw [snapshot_reply quiet.2, quiet.1]

/-- Until they are written again the offerings stay what they are. -/
theorem offerings_after_of_quiet (p : Pass) {ts : List Turn}
    (quiet : ∀ t ∈ ts, t.LeavesOfferings) :
    (p.after ts).snapshot.offerings = p.snapshot.offerings := by
  refine (moments_induction (I := fun q => q.snapshot.offerings = p.snapshot.offerings) rfl ?_).2
  intro m hm same
  rw [offerings_reply_of_quiet (quiet _ (turn_mem_of_mem_moments hm)), same]

/-- The offerings of the snapshot, none when there is no snapshot. -/
theorem offerings_snapshot (p : Pass) :
    p.snapshot.offerings = (p.discovered.map (·.offerings)).getD [] := by
  unfold snapshot
  cases p.discovered with
  | none => rfl
  | some d => rfl

/-! ## The answer -/

/-- **Which pool a pass answers**, at any time after its start:

- there is one just when the group, as it is then, mixes instance types and either lists some
  or names the kind of pool there is;
- if types are listed, the group's own type is the only key, and under it are the listed types
  with their weights, as they are listed, whatever kind is named and whatever is on offer;
- otherwise it is the pool of the offerings on the snapshot of that time;
- these are none as long as no snapshot was handed in or changed, and from then on they are
  those of the snapshot that was last handed in or changed. -/
theorem pool_is_listed_or_derived {g : InstanceGroup} {settings : Settings} {v : Verdict}
    {p : Pass} (h : start g settings v = .ok p) (ts : List Turn) (w : Verdict) :
    let q := p.after ts
    let c := q.group.configuration
    let offerings := (q.discovered.map (·.offerings)).getD []
    ∃ answered, (q.step (.ask .instancePool) w).result = .ok (.pool answered) ∧
      (answered.isSome ↔ ∃ policy, c.mixedInstancesPolicy = some policy ∧
        (policy.instanceTypes ≠ [] ∨ policy.instancePool = some "SubFamilyFlexible")) ∧
      (∀ policy, c.mixedInstancesPolicy = some policy → policy.instanceTypes ≠ [] →
        ∃ pool, answered = some pool ∧ pool.kind = .subFamilyFlexible ∧
          pool.keys = [c.instanceType] ∧ pool.members? c.instanceType =
            some (policy.instanceTypes.map fun t => ⟨t.kind, t.weight⟩)) ∧
      (∀ policy, c.mixedInstancesPolicy = some policy → policy.instanceTypes = [] →
        policy.instancePool = some "SubFamilyFlexible" →
          answered = some (.subFamilyFlexible offerings)) ∧
      ((∀ t ∈ ts, t.LeavesOfferings) → offerings = []) ∧
      ∀ before last rest, ts = before ++ last :: rest → (∀ t ∈ rest, t.LeavesOfferings) →
        (∀ d, last.operation = .setDiscovered d → offerings = d.offerings) ∧
        ∀ f, last.operation = .editDiscovered f →
          offerings = (f (p.after before).snapshot).offerings := by
  intro q c offerings
  have known : q.snapshot.offerings = offerings := offerings_snapshot q
  refine ⟨poolOf c offerings, ?result, ?some, fun policy mixed some_type => ?listed,
    fun policy mixed no_type named => ?derived, fun quiet => ?untouched,
    fun before last rest split quiet => ?written⟩
  case result =>
    rw [← known]
    rfl
  case some =>
    rw [Option.isSome_iff_exists]
    simp only [poolOf_eq_some_iff]
    constructor
    · rintro ⟨pool, ⟨mixed, some_type⟩ | ⟨mixed, no_type, named⟩⟩
      · exact ⟨_, mixed, .inl some_type⟩
      · exact ⟨_, mixed, .inr named⟩
    · rintro ⟨policy, mixed, either⟩
      by_cases no_type : policy.instanceTypes = []
      · exact ⟨_, .derived mixed no_type (either.resolve_left (not_not_intro no_type))⟩
      · exact ⟨_, .listed mixed no_type⟩
  case listed =>
    exact ⟨_, poolOf_of_listed mixed some_type, rfl, rfl, List.lookup_cons_self⟩
  case derived =>
    rw [poolOf_of_unlisted mixed no_type, if_pos named]
  case untouched =>
    rw [← known, offerings_after_of_quiet p quiet, snapshot_start h]
  case written =>
    have later : offerings = (Moment.reply ⟨p.after before, last⟩).pass.snapshot.offerings := by
      have run : q = (Moment.reply ⟨p.after before, last⟩).pass.after rest := by
        show p.after ts = _
        rw [split, after_append, after_cons]
        rfl
      rw [← known, run, offerings_after_of_quiet _ quiet]
    rw [later, offerings_reply]
    refine ⟨fun d op => ?_, fun f op => ?_⟩
    · rw [op]
    · rw [op]

/-- A name that is no kind of pool does not keep the listed types from being used, each as often
as it is listed; once the list is gone there is no pool, and with the kind named in full there
is one of what is on offer since the last snapshot. -/
theorem pool_is_listed_or_derived_after_edits :
    let types : List WeightedType := [⟨"m5.large", "1"⟩, ⟨"c5.large", "2"⟩, ⟨"m5.large", "3"⟩]
    let g := Fixture.instancePool "subFamilyFlexible" (Fixture.mixedInstanceTypes types
      Fixture.anyGroup)
    let p := ((prepare g {}).recordState .init).edit stamp
    let offering := Fixture.offering "m5.large" "x86_64" 2 8192
    let snapshot : Turn := { operation := .setDiscovered { offerings := [offering] } }
    let unlist : Turn := { operation := .editGroup (Fixture.mixedInstanceTypes []) }
    let rename : Turn := { operation := .editGroup (Fixture.instancePool "SubFamilyFlexible") }
    let answer (ts : List Turn) := ((p.after ts).step (.ask .instancePool) (.ok ())).result
    start g {} (.ok ()) = .ok p ∧
      (∃ pool, answer [snapshot] = .ok (.pool (some pool)) ∧ pool.keys = ["m5.large"] ∧
        pool.members? "m5.large" =
          some [⟨"m5.large", "1"⟩, ⟨"c5.large", "2"⟩, ⟨"m5.large", "3"⟩]) ∧
      answer [snapshot, unlist] = .ok (.pool none) ∧
      answer [snapshot, unlist, rename] =
        .ok (.pool (some (.subFamilyFlexible [offering]))) ∧
      answer [unlist, rename] = .ok (.pool (some (.subFamilyFlexible []))) := by
  intro types g p offering snapshot unlist rename answer
  have started : start g {} (.ok ()) = .ok p := rfl
  have quiet (f : InstanceGroup → InstanceGroup) :
      Turn.LeavesOfferings { operation := .editGroup f } := by
    refine ⟨rfl, ?_⟩
    rintro ⟨_, edits⟩
    cases edits
  have quiet_edits : ∀ t ∈ [unlist, rename], t.LeavesOfferings :=
    List.forall_mem_cons.2 ⟨quiet _, List.forall_mem_cons.2 ⟨quiet _, List.forall_mem_nil _⟩⟩
  refine ⟨started, ?_, ?_, ?_, ?_⟩
  · obtain ⟨answered, result, -, listed, -, -, -⟩ :=
      pool_is_listed_or_derived started [snapshot] (.ok ())
    obtain ⟨pool, rfl, -, keys, members⟩ := listed _ rfl (List.cons_ne_nil _ _)
    exact ⟨pool, result, keys, members⟩
  · obtain ⟨answered, result, exists_iff, -, -, -, -⟩ :=
      pool_is_listed_or_derived started [snapshot, unlist] (.ok ())
    have none : answered = none := by
      rw [← Option.not_isSome_iff_eq_none, exists_iff]
      rintro ⟨policy, mixed, either⟩
      cases mixed
      rcases either with some_type | named
      · exact some_type rfl
      · exact absurd named (by decide)
    rw [none] at result
    exact result
  · obtain ⟨answered, result, -, -, derived, -, written⟩ :=
      pool_is_listed_or_derived started [snapshot, unlist, rename] (.ok ())
    have known := (written [] snapshot [unlist, rename] rfl quiet_edits).1 _ rfl
    rw [derived _ rfl rfl rfl, known] at result
    exact result
  · obtain ⟨answered, result, -, -, derived, untouched, -⟩ :=
      pool_is_listed_or_derived started [unlist, rename] (.ok ())
    rw [derived _ rfl rfl rfl, untouched quiet_edits] at result
    exact result

end Pass

end WorkerGroup
