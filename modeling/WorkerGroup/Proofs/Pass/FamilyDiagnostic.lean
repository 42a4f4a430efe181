/-
An OS family annotation that is ignored is reported once per version of the group.

An edit makes another version of the group, so a run is cut at its edits (`segments`), the
edit that starting a pass makes among them (`opening`). Within a segment nothing changes
that the family depends on, and every segment starts with no family kept: the first because
a pass is prepared without one, the others because an edit throws it away.

How often the diagnostic is logged is then settled by whether a family is kept. It is logged
where the family is asked for and none is kept (`diagnostics_eq`), and from there on one is
kept (`family_reply`). So of all who ask in a segment it is the first who logs what there is
to log about the group (`diagnostics_moments`).
-/
import WorkerGroup.Fixture
import WorkerGroup.Proofs.Pass.HandedBack
import WorkerGroup.Warning.Event

set_option autoImplicit false

namespace WorkerGroup.Pass

/-! ## The diagnostic -/

/-- The sentence an annotation that names no family is logged with. -/
def familyDiagnostic : String :=
  "unsupported os family annotation value, using default"

/-- The events with that sentence among those some warnings are logged as. -/
def diagnosticsOf (ws : List Warning) : List (List (String × String)) :=
  (ws.map Warning.event).filter fun e => ("message", familyDiagnostic) ∈ e

/-- The diagnostics that are logged at a moment. -/
def Moment.diagnostics (m : Moment) : List (List (String × String)) :=
  diagnosticsOf m.reply.warnings

/-- The diagnostics that are logged at some moments. -/
def diagnostics (ms : List Moment) : List (List (String × String)) :=
  ms.flatMap Moment.diagnostics

/-- The operation needs the OS family. -/
def Operation.asksFamily : Operation → Bool
  | .ask .osFamily | .ask .userData => true
  | _ => false

/-- The sentence is that of one kind of warning. -/
theorem mem_event_iff {w : Warning} :
    ("message", familyDiagnostic) ∈ w.event ↔ ∃ value, w = .unsupportedOsFamily value := by
  cases w <;> simp [Warning.event, Warning.message, familyDiagnostic]

theorem mem_hostPods_warnings {annotations : Table String} {w : Warning}
    (h : w ∈ (Annotations.hostPods annotations).2) : ∃ value, w = .invalidHostPods value := by
  rw [Annotations.hostPods] at h
  cases written : annotations.find? Annotations.hostPodsKey with
  | none =>
    rw [written] at h
    cases h
  | some value =>
    rw [written] at h
    cases number : Annotations.hostPodsOf? value with
    | none =>
      simp only [number] at h
      exact ⟨value, List.mem_singleton.1 h⟩
    | some n =>
      simp only [number] at h
      cases h

/-- What is reported about the bootstrap parameters, the family apart, is a pod capacity
annotation that is no number or a document that is missing. -/
theorem mem_resolveWarnings {g : InstanceGroup} {family : OsFamily} {inputs : Bootstrap.Inputs}
    {w : Warning} (h : w ∈ Bootstrap.resolveWarnings g family inputs) :
    (∃ value, w = .invalidHostPods value) ∨ w = .missingNodeConfig family := by
  rw [Bootstrap.resolveWarnings, List.mem_append] at h
  obtain capacity | document := h
  · left
    cases offered : inputs.offering with
    | none =>
      rw [offered] at capacity
      cases capacity
    | some o =>
      simp only [Bootstrap.resolveMaxPods, offered] at capacity
      split at capacity
      · exact mem_hostPods_warnings capacity
      · cases capacity
  · right
    split at document
    · exact List.mem_singleton.1 document
    · cases document

theorem diagnosticsOf_resolveWarnings (g : InstanceGroup) (family : OsFamily)
    (inputs : Bootstrap.Inputs) :
    diagnosticsOf (Bootstrap.resolveWarnings g family inputs) = [] := by
  rw [diagnosticsOf, List.filter_eq_nil_iff]
  intro e he
  obtain ⟨w, hw, rfl⟩ := List.mem_map.1 he
  rw [decide_eq_true_iff, mem_event_iff]
  obtain ⟨value, rfl⟩ | rfl := mem_resolveWarnings hw
  · rintro ⟨_, same⟩
    cases same
  · rintro ⟨_, same⟩
    cases same

/-! ## What there is to report about a group -/

/-- The annotation of a group is ignored: there is one, no stage settles the question before
it is looked at, and it is the name of no family in whatever case. -/
structure FamilyIgnored (g : InstanceGroup) (value : String) : Prop where
  noStage : ∀ stage ∈ g.configuration.userData, stage.isStage UserDataStage.nodeConfig = false
  written : g.annotations.find? Annotations.osFamilyKey = some value
  unmatched : ∀ family ∈ OsFamily.all, Text.sameIgnoringCase family.name value = false

/-- A state on the status does not matter. -/
theorem familyIgnored_withState {g : InstanceGroup} {s : ReconcileState} {value : String} :
    FamilyIgnored (g.withState s) value ↔ FamilyIgnored g value :=
  ⟨fun h => ⟨h.noStage, h.written, h.unmatched⟩, fun h => ⟨h.noStage, h.written, h.unmatched⟩⟩

/-- What a resolution hands back as unsupported is the annotation that was ignored. -/
theorem unsupported_eq_some_iff {g : InstanceGroup} {value : String} :
    (OsFamily.ofGroup g).unsupported = some value ↔ FamilyIgnored g value := by
  have stages : hasNodeConfigStage g.configuration.userData = false ↔
      ∀ stage ∈ g.configuration.userData, stage.isStage UserDataStage.nodeConfig = false := by
    simp [hasNodeConfigStage]
  have names : OsFamily.ofText? value = none ↔
      ∀ family ∈ OsFamily.all, Text.sameIgnoringCase family.name value = false := by
    simp [OsFamily.ofText?]
  have ignored : FamilyIgnored g value ↔
      hasNodeConfigStage g.configuration.userData = false ∧
        Annotations.osFamily? g.annotations = some value ∧ OsFamily.ofText? value = none :=
    ⟨fun h => ⟨stages.2 h.noStage, h.written, names.2 h.unmatched⟩,
      fun h => ⟨stages.1 h.1, h.2.1, names.1 h.2.2⟩⟩
  rw [ignored, OsFamily.ofGroup, OsFamily.resolve]
  cases hasNodeConfigStage g.configuration.userData with
  | true => simp
  | false =>
    cases Annotations.osFamily? g.annotations with
    | none => simp
    | some v =>
      cases name : OsFamily.ofText? v with
      | none =>
        simp only [Bool.false_eq_true, if_false, Option.some.injEq, true_and, name]
        constructor
        · rintro rfl
          exact ⟨rfl, name⟩
        · exact And.left
      | some family =>
        simp only [Bool.false_eq_true, if_false, Option.some.injEq, true_and, name, reduceCtorEq,
          false_iff]
        rintro ⟨rfl, unmatched⟩
        rw [name] at unmatched
        cases unmatched

/-- What is logged about the family of a group. -/
def familyEvents (g : InstanceGroup) : List (List (String × String)) :=
  (OsFamily.ofGroup g).warnings.map Warning.event

/-- All that is reported about a family is the diagnostic. -/
theorem diagnosticsOf_warnings (g : InstanceGroup) :
    diagnosticsOf (OsFamily.ofGroup g).warnings = familyEvents g := by
  rw [diagnosticsOf, familyEvents, List.filter_eq_self]
  intro e he
  obtain ⟨w, hw, rfl⟩ := List.mem_map.1 he
  obtain ⟨value, -, rfl⟩ := List.mem_map.1 hw
  exact decide_eq_true (mem_event_iff.2 ⟨value, rfl⟩)

/-- What is logged about a family is one event, if the annotation of the group is ignored,
and nothing otherwise. -/
theorem familyEvents_eq (g : InstanceGroup) :
    familyEvents g =
      (OsFamily.ofGroup g).unsupported.toList.map fun value =>
        (Warning.unsupportedOsFamily value).event := by
  rw [familyEvents, OsFamilyResolution.warnings, List.map_map]
  rfl

/-! ## One moment -/

/-- **Who logs the diagnostic**: an operation that asks for the family while none is kept. -/
theorem diagnostics_eq (m : Moment) :
    m.diagnostics =
      if m.turn.operation.asksFamily && m.pass.family.isNone then familyEvents m.pass.group
      else [] := by
  obtain ⟨p, ⟨op, v⟩⟩ := m
  have asked : diagnosticsOf p.osFamilyWarnings =
      if p.family.isNone then familyEvents p.group else [] := by
    rw [osFamilyWarnings]
    cases p.family with
    | none => exact diagnosticsOf_warnings p.group
    | some family => rfl
  cases op with
  | ask query =>
    cases query with
    | osFamily => exact asked
    | userData =>
      have both : diagnosticsOf p.userDataWarnings = diagnosticsOf p.osFamilyWarnings := by
        rw [userDataWarnings, diagnosticsOf, List.map_append, List.filter_append, ← diagnosticsOf,
          ← diagnosticsOf, diagnosticsOf_resolveWarnings, List.append_nil]
      exact both.trans asked
    | instancePool | scalingGroupTags | managedPolicies | configurationsToPrune | discovered
    | state | isLocked | upgradeStrategy | groupName | group => rfl
  | discoverTransition =>
    rw [Moment.diagnostics, Moment.reply, step]
    split <;> rfl
  | setState _ | ensureUnlocked | setDiscovered _ | editDiscovered _ | editGroup _ => rfl

theorem asksFamily_of_diagnostics {m : Moment} (h : m.diagnostics ≠ []) :
    m.turn.operation.asksFamily = true := by
  rw [diagnostics_eq] at h
  cases asks : m.turn.operation.asksFamily with
  | true => rfl
  | false =>
    rw [asks] at h
    exact absurd rfl h

/-- **What becomes of the kept family**: an edit throws it away, and asking for the family
keeps it. -/
theorem family_reply (m : Moment) :
    m.reply.pass.family =
      if m.turn.operation.editsGroup then none
      else if m.turn.operation.asksFamily then some m.pass.osFamily
      else m.pass.family := by
  obtain ⟨p, ⟨op, v⟩⟩ := m
  cases op with
  | ask query => cases query <;> rfl
  | discoverTransition =>
    rw [Moment.reply, step]
    split <;> rfl
  | setState _ | ensureUnlocked | setDiscovered _ | editDiscovered _ | editGroup _ => rfl

/-! ## One segment -/

/-- **In a run without edits the first who asks logs what there is to log**, unless a family
is kept already. -/
theorem diagnostics_moments {p : Pass} {ts : List Turn}
    (h : ∀ t ∈ ts, t.operation.editsGroup = false) :
    diagnostics (p.moments ts) =
      if (p.moments ts).any (·.turn.operation.asksFamily) && p.family.isNone then
        familyEvents p.group
      else [] := by
  induction ts generalizing p with
  | nil => rfl
  | cons t ts ih =>
    obtain ⟨unedited, later⟩ := List.forall_mem_cons.1 h
    let next := (p.step t.operation t.verdict).pass
    have family : next.family =
        if t.operation.asksFamily then some p.osFamily else p.family := by
      have kept := family_reply ⟨p, t⟩
      rwa [if_neg (by simp [unedited])] at kept
    have events : familyEvents next.group = familyEvents p.group := by
      have group : next.group = p.group.withState next.group.state :=
        group_reply_of_no_edit (m := ⟨p, t⟩) unedited
      rw [group]
      rfl
    have rest : diagnostics (next.moments ts) = _ := ih later
    rw [events, family] at rest
    rw [moments_cons, diagnostics, List.flatMap_cons, ← diagnostics, rest, diagnostics_eq,
      List.any_cons]
    -- Once the first has asked, a family is kept and the rest log nothing.
    cases t.operation.asksFamily with
    | true => simp
    | false => simp [next]

/-! ## Segments -/

/-- The moments of a run, cut at the edits of the group. The edits themselves are in no
segment, and a run that ends with one has an empty segment at its end. -/
def segments (p : Pass) (ts : List Turn) : List (List Moment) :=
  (p.moments ts).splitOnP fun m => m.turn.operation.editsGroup

/-- The moments are those of a run from the pass on, and the group is edited at none. -/
def UneditedFrom (p : Pass) (ms : List Moment) : Prop :=
  ∃ ts, ms = p.moments ts ∧ ∀ t ∈ ts, t.operation.editsGroup = false

theorem uneditedFrom_nil (p : Pass) : p.UneditedFrom [] :=
  ⟨[], rfl, List.forall_mem_nil _⟩

theorem UneditedFrom.cons {p : Pass} {t : Turn} {ms : List Moment}
    (unedited : t.operation.editsGroup = false)
    (h : (p.step t.operation t.verdict).pass.UneditedFrom ms) :
    p.UneditedFrom (⟨p, t⟩ :: ms) := by
  obtain ⟨ts, rfl, later⟩ := h
  exact ⟨t :: ts, rfl, List.forall_mem_cons.2 ⟨unedited, later⟩⟩

/-- **A run is its segments.** The first goes on from where the run starts, each of the
others from an edit, where no family is kept. -/
theorem segments_eq (p : Pass) (ts : List Turn) :
    ∃ first others, p.segments ts = first :: others ∧ p.UneditedFrom first ∧
      ∀ segment ∈ others, ∃ q : Pass, q.family = none ∧ q.UneditedFrom segment := by
  induction ts generalizing p with
  | nil => exact ⟨[], [], rfl, p.uneditedFrom_nil, List.forall_mem_nil _⟩
  | cons t ts ih =>
    let next := (p.step t.operation t.verdict).pass
    obtain ⟨first, others, split, fromNext, fromEdits⟩ := ih next
    rw [segments] at split
    rw [segments, moments_cons, List.splitOnP_cons_eq_if_modifyHead, split]
    cases edits : t.operation.editsGroup with
    | true =>
      have forgotten : next.family = none := by
        have kept := family_reply ⟨p, t⟩
        rwa [if_pos edits] at kept
      exact ⟨[], first :: others, rfl, p.uneditedFrom_nil,
        List.forall_mem_cons.2 ⟨⟨next, forgotten, fromNext⟩, fromEdits⟩⟩
    | false => exact ⟨⟨p, t⟩ :: first, others, rfl, fromNext.cons edits, fromEdits⟩

/-- Every segment of a run that starts with no family kept starts so itself. -/
theorem exists_of_mem_segments {p : Pass} {ts : List Turn} {segment : List Moment}
    (fresh : p.family = none) (h : segment ∈ p.segments ts) :
    ∃ q : Pass, q.family = none ∧ q.UneditedFrom segment := by
  obtain ⟨first, others, split, fromStart, fromEdits⟩ := segments_eq p ts
  rw [split] at h
  obtain rfl | later := List.mem_cons.1 h
  · exact ⟨p, fresh, fromStart⟩
  · exact fromEdits segment later

/-- A segment that starts with no family kept logs one diagnostic or none, and one where the
family is asked for and the annotation of the group is ignored. -/
theorem UneditedFrom.diagnostics_cases {p : Pass} {segment : List Moment}
    (fresh : p.family = none) (h : p.UneditedFrom segment) :
    (∃ value, diagnostics segment = [(Warning.unsupportedOsFamily value).event] ∧
      (∃ m ∈ segment, m.turn.operation.asksFamily) ∧
      ∀ m ∈ segment, FamilyIgnored m.pass.group value) ∨
    (diagnostics segment = [] ∧
      ∀ value, (∃ m ∈ segment, m.turn.operation.asksFamily) →
        ¬ ∀ m ∈ segment, FamilyIgnored m.pass.group value) := by
  obtain ⟨ts, rfl, unedited⟩ := h
  have version : ∀ value, ∀ m ∈ p.moments ts,
      FamilyIgnored m.pass.group value ↔ FamilyIgnored p.group value := by
    intro value m hm
    rw [(group_of_no_edits unedited).1 m hm]
    exact familyIgnored_withState
  have logged := diagnostics_moments (p := p) unedited
  rw [fresh, Option.isNone_none, Bool.and_true, familyEvents_eq] at logged
  cases asked : (p.moments ts).any (·.turn.operation.asksFamily) with
  | false =>
    rw [asked, if_neg Bool.false_ne_true] at logged
    rw [List.any_eq_false] at asked
    exact .inr ⟨logged, fun value ⟨m, hm, asks⟩ => absurd asks (asked m hm)⟩
  | true =>
    rw [asked, if_pos rfl] at logged
    rw [List.any_eq_true] at asked
    cases unsupported : (OsFamily.ofGroup p.group).unsupported with
    | some value =>
      rw [unsupported] at logged
      have ignored := unsupported_eq_some_iff.1 unsupported
      exact .inl ⟨value, logged, asked, fun m hm => (version value m hm).2 ignored⟩
    | none =>
      rw [unsupported] at logged
      refine .inr ⟨logged, fun value ⟨m, hm, _⟩ ignored => ?_⟩
      have supported := unsupported_eq_some_iff.2 ((version value m hm).1 (ignored m hm))
      rw [unsupported] at supported
      cases supported

/-- What starting a pass does to the pass that was prepared: the first state is recorded,
and an edit writes the rest of the status. -/
def opening : List Turn :=
  [{ operation := .setState .init }, { operation := .editGroup stamp }]

/-- **An ignored OS family annotation is reported once per version of the group.** Cut a run
at the edits of the group, that which starting the pass makes included. In each segment,
whatever else is done there and whatever the sink refuses:

- the diagnostic is logged at most once, and once exactly when the family or the bootstrap
  parameters are asked for in the segment, and the annotation of the group, as it is all
  through the segment, is ignored;
- the value it is logged with is the annotation as it was written;
- no other operation logs it, in the segment or elsewhere. -/
theorem ignored_family_reported_once {g : InstanceGroup} {settings : Settings} {ts : List Turn}
    {segment : List Moment} (h : segment ∈ (prepare g settings).segments (opening ++ ts)) :
    start g settings (.ok ()) = .ok ((prepare g settings).after opening) ∧
    (diagnostics segment).length ≤ 1 ∧
    ((diagnostics segment).length = 1 ↔
      (∃ m ∈ segment, m.turn.operation.asksFamily) ∧
      ∃ value, ∀ m ∈ segment, FamilyIgnored m.pass.group value) ∧
    (∀ e ∈ diagnostics segment, ∃ value,
      e.lookup "value" = some value ∧ ∀ m ∈ segment, FamilyIgnored m.pass.group value) ∧
    ∀ m ∈ (prepare g settings).moments (opening ++ ts),
      m.diagnostics ≠ [] → m.turn.operation.asksFamily := by
  obtain ⟨q, fresh, unedited⟩ := exists_of_mem_segments rfl h
  refine ⟨rfl, ?_⟩
  obtain ⟨value, logged, asked, ignored⟩ | ⟨logged, silent⟩ := unedited.diagnostics_cases fresh
  · rw [logged]
    refine ⟨Nat.le_refl 1, iff_of_true rfl ⟨asked, value, ignored⟩, ?_,
      fun m _ => asksFamily_of_diagnostics⟩
    intro e he
    rw [List.mem_singleton.1 he]
    exact ⟨value, rfl, ignored⟩
  · rw [logged]
    refine ⟨Nat.zero_le 1, iff_of_false Nat.zero_ne_one ?_, List.forall_mem_nil _,
      fun m _ => asksFamily_of_diagnostics⟩
    rintro ⟨asked, value, ignored⟩
    exact silent value asked ignored

/-- A group whose annotation is ignored is asked for its family before and after a state
that the sink refuses, and for its parameters; then the annotation is mended and it is asked
again. The first version of the group has its one report, the second has none. -/
theorem ignored_family_reported_once_before_edit :
    let g := Fixture.anyGroup.annotate Annotations.osFamilyKey "ubuntu"
    let p := ((prepare g {}).recordState .init).edit stamp
    let us : List Turn :=
      [{ operation := .ask .osFamily },
       { operation := .setState .ready, verdict := .error (.unavailable "down") },
       { operation := .ask .userData }, { operation := .ask .osFamily }]
    let mend : Turn :=
      { operation := .editGroup fun g => g.annotate Annotations.osFamilyKey "Windows" }
    let ts := us ++ [mend, { operation := .ask .osFamily }]
    p.moments us ∈ (prepare g {}).segments (opening ++ ts) ∧
      (∃ m ∈ p.moments us, m.turn.operation.asksFamily) ∧
      (∀ m ∈ p.moments us, FamilyIgnored m.pass.group "ubuntu") ∧
      (diagnostics (p.moments us)).length = 1 ∧
      diagnostics ((p.after (us ++ [mend])).moments [{ operation := .ask .osFamily }]) = [] := by
  intro g p us mend ts
  have cut : (prepare g {}).segments (opening ++ ts) =
      [(prepare g {}).moments [{ operation := .setState .init }], p.moments us,
        (p.after (us ++ [mend])).moments [{ operation := .ask .osFamily }]] := rfl
  have member : p.moments us ∈ (prepare g {}).segments (opening ++ ts) := by
    rw [cut]
    simp
  have unedited : ∀ t ∈ us, t.operation.editsGroup = false := by
    simp [us, Operation.editsGroup]
  have asked : ∃ m ∈ p.moments us, m.turn.operation.asksFamily :=
    ⟨⟨p, { operation := .ask .osFamily }⟩, List.mem_cons_self, rfl⟩
  have written : FamilyIgnored p.group "ubuntu" :=
    ⟨List.forall_mem_nil _, rfl, by decide⟩
  have ignored : ∀ m ∈ p.moments us, FamilyIgnored m.pass.group "ubuntu" := by
    intro m hm
    rw [(group_of_no_edits unedited).1 m hm]
    exact familyIgnored_withState.2 written
  obtain ⟨-, -, once, -, -⟩ := ignored_family_reported_once member
  exact ⟨member, asked, ignored, once.2 ⟨asked, "ubuntu", ignored⟩, rfl⟩

end WorkerGroup.Pass
