/-
The text of the gauge says what was reported.

The text is written by two loops, over the groups and over the states, and neither of them
looks at more than one group. So it is laid out here as the list of its series, twelve to a
group (`seriesOf`); a line is written for each, and since no line has an end inside of it the
text falls into just these lines again (`pieces_render`). What the reader of the text finds is
then the list of series (`series?_render`), and the ones that are set to one, a single one to
a group, are the entries of the snapshot (`currents_series`). Nothing of the snapshot is left
out, so no two of them are written as one text.

This takes that the groups can stand between quotes as they are, and that what is reported
are states: a group in a state of another name has twelve series that are all zero, and is
lost to the reader. Both are conditions on the reports alone (`Canonical`).
-/
import WorkerGroup.Proofs.StateGauge.History
import WorkerGroup.Proofs.StateGauge.Reading
import WorkerGroup.Proofs.Table.Entries
import Mathlib.Data.List.Nodup
import Mathlib.Data.List.ProdSigma

set_option autoImplicit false

namespace WorkerGroup.Collector

/-! ## What a text says of a snapshot -/

/-- The lines that introduce the gauge: what it means, and what kind of metric it is. -/
def introduction : List String :=
  ["# HELP instance_manager_instance_group_status Current reconcile state of an instance group.",
    "# TYPE instance_manager_instance_group_status gauge"]

/-- A text shows a snapshot, in the series that are read from it line by line. -/
structure Shows (text : String) (snapshot : Table String) (read : List Series) : Prop where
  /-- Two lines introduce the gauge, and behind them is one line for each series. -/
  lines : ∃ samples, Text.pieces '\n' text = introduction ++ samples ++ [""] ∧
    samples.map Series.read? = read.map some
  ascending : snapshot.keys.Pairwise (· < ·)
  /-- Group by group, each with all the states. -/
  series : read.map (fun x => (x.group, x.state)) =
    snapshot.keys.product (ReconcileState.all.map ReconcileState.name)
  once : (read.map fun x => (x.group, x.state)).Nodup
  /-- One series of a group is set to one, that of its own state. -/
  current : ∀ group state, snapshot.find? group = some state →
    (read.filter fun x => x.group = group).filter (·.isCurrent) = [⟨group, state, true⟩]
  /-- The other eleven are zero. -/
  others : ∀ group ∈ snapshot.keys,
    ((read.filter fun x => x.group = group).filter (!·.isCurrent)).length = 11

/-! ## The text as a list of series -/

/-- The series of a group: one per state. -/
def seriesOf (group current : String) : List Series :=
  ReconcileState.all.map fun s => ⟨group, s.name, s.name == current⟩

/-- The series of the gauge, groups in the order of their names. -/
def series (c : Collector) : List Series :=
  c.snapshot.entries.flatMap fun e => seriesOf e.1 e.2

theorem samples_eq (group current : String) :
    samples group current =
      String.join ((seriesOf group current).map fun x => x.line ++ "\n") := by
  rw [samples, seriesOf, List.map_map]
  rfl

/-- The text is written line by line. -/
theorem render_eq (c : Collector) :
    c.render = String.join
      ((introduction ++ c.series.map Series.line).map (· ++ "\n")) := by
  have groups (l : List (String × String)) :
      String.join (l.map fun e => samples e.1 e.2) =
        String.join ((l.flatMap fun e => seriesOf e.1 e.2).map fun x => x.line ++ "\n") := by
    induction l with
    | nil => rfl
    | cons e l ih =>
      rw [List.map_cons, String.join_cons, ih, List.flatMap_cons, List.map_append,
        String.join_append, samples_eq]
  rw [render, List.map_append, String.join_append, List.map_map]
  refine congrArg₂ (· ++ ·) (by decide) ?_
  exact groups c.snapshot.entries

/-! ## The series of one group -/

theorem filter_name_eq (s : ReconcileState) :
    (ReconcileState.all.filter fun t => t.name == s.name) = [s] := by
  cases s <;> decide

theorem length_filter_name_ne (s : ReconcileState) :
    (ReconcileState.all.filter fun t => !(t.name == s.name)).length = 11 := by
  cases s <;> decide

/-- One series of a group in a state is set to one. -/
theorem currents_seriesOf (group : String) (s : ReconcileState) :
    (seriesOf group s.name).filter (·.isCurrent) = [⟨group, s.name, true⟩] := by
  rw [seriesOf, List.filter_map]
  have only := filter_name_eq s
  simp only [Function.comp_def, only, List.map_singleton, beq_self_eq_true]

theorem length_others_seriesOf (group : String) (s : ReconcileState) :
    ((seriesOf group s.name).filter (!·.isCurrent)).length = 11 := by
  rw [seriesOf, List.filter_map, List.length_map]
  exact length_filter_name_ne s

/-- Among the series of all groups those of one are the series of its entry. -/
theorem filter_group_flatMap (l : List (String × String)) (group : String) :
    ((l.flatMap fun e => seriesOf e.1 e.2).filter fun x => x.group = group) =
      (l.filter fun e => e.1 = group).flatMap fun e => seriesOf e.1 e.2 := by
  induction l with
  | nil => rfl
  | cons e l ih =>
    rw [List.flatMap_cons, List.filter_append, ih]
    by_cases own : e.1 = group
    · have all : (seriesOf e.1 e.2).filter (fun x => x.group = group) = seriesOf e.1 e.2 := by
        simp [seriesOf, own]
      rw [all, List.filter_cons_of_pos (by simpa using own), List.flatMap_cons]
    · have none : (seriesOf e.1 e.2).filter (fun x => x.group = group) = [] := by
        simp [seriesOf, own]
      rw [none, List.filter_cons_of_neg (by simpa using own), List.nil_append]

theorem filter_group_series {c : Collector} {group state : String}
    (h : c.snapshot.find? group = some state) :
    (c.series.filter fun x => x.group = group) = seriesOf group state := by
  rw [series, filter_group_flatMap, Table.filter_entries h, List.flatMap_singleton]

/-! ## Collectors of groups and states -/

/-- A collector's groups can stand between quotes as they are, and are in states there are. -/
structure Canonical (c : Collector) : Prop where
  group : ∀ e ∈ c.snapshot.entries, Verbatim e.1
  state : ∀ e ∈ c.snapshot.entries, ∃ s : ReconcileState, s.name = e.2

/-- What is reported are states, of groups that can stand between quotes as they are. -/
def CanonicalReports (ws : List Write) : Prop :=
  ∀ report, .record report ∈ ws →
    Verbatim report.group ∧ ∃ s : ReconcileState, s.name = report.state

theorem CanonicalReports.canonical {ws : List Write} (h : CanonicalReports ws) :
    (({} : Collector).afterWrites ws).Canonical := by
  have reported : ∀ e ∈ (({} : Collector).afterWrites ws).snapshot.entries,
      .record ⟨e.1, e.2⟩ ∈ ws := by
    intro e listed
    obtain ⟨before, behind, rfl, -⟩ :=
      find?_afterWrites_empty_iff.1 (Table.mem_entries_iff.1 listed)
    simp
  exact ⟨fun e listed => (h _ (reported e listed)).1, fun e listed => (h _ (reported e listed)).2⟩

section

variable {c : Collector} (h : c.Canonical)
include h

theorem Canonical.verbatim_of_mem_series {x : Series} (listed : x ∈ c.series) :
    Verbatim x.group ∧ Verbatim x.state := by
  obtain ⟨e, entry, own⟩ := List.mem_flatMap.1 listed
  obtain ⟨s, -, rfl⟩ := List.mem_map.1 own
  exact ⟨h.group e entry, verbatim_name s⟩

/-! ## Reading the text -/

/-- **The text falls into the lines it was written in.** -/
theorem pieces_render :
    Text.pieces '\n' c.render =
      introduction ++ c.series.map Series.line ++ [""] := by
  rw [render_eq]
  refine Text.pieces_join_ended rfl fun line listed => ?_
  rcases List.mem_append.1 listed with first | sample
  · have whole : ∀ line ∈ introduction, '\n' ∉ line.toList := by decide
    exact whole line first
  · obtain ⟨x, shown, rfl⟩ := List.mem_map.1 sample
    obtain ⟨group, state⟩ := h.verbatim_of_mem_series shown
    exact notMem_line group state

theorem read?_lines : (c.series.map Series.line).map Series.read? = c.series.map some := by
  rw [List.map_map]
  refine List.map_congr_left fun x shown => ?_
  obtain ⟨group, state⟩ := h.verbatim_of_mem_series shown
  exact read?_line group state

/-- **The reader finds the series the text was written from.** -/
theorem series?_render : series? c.render = some c.series := by
  have samples : (Text.pieces '\n' c.render).filter isSample = c.series.map Series.line := by
    have kept : (c.series.map Series.line).filter isSample = c.series.map Series.line := by
      refine List.filter_eq_self.2 fun line listed => ?_
      obtain ⟨x, -, rfl⟩ := List.mem_map.1 listed
      exact isSample_line x
    rw [pieces_render h, List.filter_append, List.filter_append, kept]
    have comments : introduction.filter isSample = [] := by decide
    have last : [""].filter isSample = [] := by decide
    rw [comments, last, List.nil_append, List.append_nil]
  rw [series?, samples]
  have read : (c.series.map Series.line).mapM Series.read? = some (c.series.map id) :=
    Lists.mapM_map_eq_some fun x shown =>
      read?_line (h.verbatim_of_mem_series shown).1 (h.verbatim_of_mem_series shown).2
  rw [read, List.map_id]

/-- **The series that are set to one are the entries of the snapshot.** -/
theorem currents_series :
    (c.series.filter (·.isCurrent)).map (fun x => (x.group, x.state)) = c.snapshot.entries := by
  rw [series]
  have states := h.state
  generalize c.snapshot.entries = l at states ⊢
  induction l with
  | nil => rfl
  | cons e l ih =>
    obtain ⟨⟨s, named⟩, later⟩ := List.forall_mem_cons.1 states
    rw [List.flatMap_cons, List.filter_append, ← named, currents_seriesOf, List.map_append,
      ih later, named]
    rfl

theorem readSnapshot?_render : readSnapshot? c.render = some c.snapshot := by
  rw [readSnapshot?, series?_render h, Option.map_some, currents_series h, Table.ofList_entries]

theorem shows_render : Shows c.render c.snapshot c.series := by
  have product : c.series.map (fun x => (x.group, x.state)) =
      c.snapshot.keys.product (ReconcileState.all.map ReconcileState.name) := by
    rw [series, List.map_flatMap, List.product, Table.keys, List.flatMap_map]
    simp only [seriesOf, List.map_map]
    rfl
  refine ⟨⟨_, pieces_render h, read?_lines h⟩, c.snapshot.pairwise_lt_keys, product, ?once,
    ?current, ?others⟩
  case once =>
    rw [product]
    exact c.snapshot.nodup_keys.product (by decide)
  case current =>
    intro group state found
    obtain ⟨s, rfl⟩ := h.state _ (Table.mem_entries_iff.2 found)
    rw [filter_group_series found, currents_seriesOf]
  case others =>
    intro group listed
    obtain ⟨state, found⟩ := Option.isSome_iff_exists.1 (Table.mem_keys_iff.1 listed)
    obtain ⟨s, rfl⟩ := h.state _ (Table.mem_entries_iff.2 found)
    rw [filter_group_series found, length_others_seriesOf]

end

/-! ## After any history -/

/-- **The text of the gauge says what was reported, and nothing else.** After any history of
reports and removals a group is in the snapshot exactly when it was reported and not taken
out since, with its last state. The text has two lines of introduction and twelve lines for
each of these groups, the groups in the order of their names and the states in that of the
lifecycle, no series twice, with a one at the group's own state and zeros at the others. The
ones give the snapshot back, so no other history that leaves another snapshot is written as
the same text. -/
theorem text_says_what_was_reported {ws : List Write} (canonical : CanonicalReports ws) :
    (∀ group state, (({} : Collector).afterWrites ws).snapshot.find? group = some state ↔
        LastRecorded ws group state) ∧
      (∃ read, series? (({} : Collector).afterWrites ws).render = some read ∧
        Shows (({} : Collector).afterWrites ws).render
          (({} : Collector).afterWrites ws).snapshot read) ∧
      readSnapshot? (({} : Collector).afterWrites ws).render =
        some (({} : Collector).afterWrites ws).snapshot ∧
      ∀ ws', CanonicalReports ws' →
        (({} : Collector).afterWrites ws').render = (({} : Collector).afterWrites ws).render →
          (({} : Collector).afterWrites ws').snapshot =
            (({} : Collector).afterWrites ws).snapshot := by
  have read := readSnapshot?_render canonical.canonical
  refine ⟨fun group state => find?_afterWrites_empty_iff,
    ⟨_, series?_render canonical.canonical, shows_render canonical.canonical⟩, read,
    fun ws' canonical' same => ?_⟩
  have read' := readSnapshot?_render canonical'.canonical
  rw [same, read] at read'
  exact (Option.some.inj read').symm

/-- A group whose name is full of what a line is made of besides quotes, one that was reported
twice and one that was taken out again: the text gives back the two that are left, and is not
the text from before the last two writes. -/
theorem text_says_what_was_reported_odd_name :
    let earlier : List Write :=
      [.record ⟨"default/workers", "Init"⟩, .record ⟨"apps/\x7ba\x7d 1,state=b", "Ready"⟩,
        .record ⟨"default/old", "Deleting"⟩]
    let ws := earlier ++ [.record ⟨"default/workers", "InitCreate"⟩, .remove "default/old"]
    let c := ({} : Collector).afterWrites ws
    CanonicalReports ws ∧
      c.snapshot.entries =
        [("apps/\x7ba\x7d 1,state=b", "Ready"), ("default/workers", "InitCreate")] ∧
      readSnapshot? c.render = some c.snapshot ∧
      (({} : Collector).afterWrites earlier).render ≠ c.render := by
  intro earlier ws c
  have canonical : CanonicalReports ws := by
    have plain : ∀ w ∈ ws, Verbatim w.key := by decide
    have states : ∀ w ∈ ws, ∀ state ∈ w.item?, (ReconcileState.ofName? state).isSome := by decide
    intro report listed
    refine ⟨plain _ listed, ?_⟩
    obtain ⟨s, found⟩ := Option.isSome_iff_exists.1 (states _ listed report.state rfl)
    have named := List.find?_some found
    exact ⟨s, eq_of_beq named⟩
  have canonical' : CanonicalReports earlier :=
    fun report listed => canonical report (List.mem_append_left _ listed)
  obtain ⟨-, -, read, one⟩ := text_says_what_was_reported canonical
  refine ⟨canonical, rfl, read, fun same => ?_⟩
  have kept : (({} : Collector).afterWrites earlier).snapshot = c.snapshot :=
    one earlier canonical' same
  have lost : (({} : Collector).afterWrites earlier).snapshot.find? "default/old" ≠
      c.snapshot.find? "default/old" := by decide
  exact lost (congrArg (Table.find? · "default/old") kept)

end WorkerGroup.Collector
