/-
The state gauge after a history of writes.

A collector may be shared: several passes report to one, and whoever deletes a group takes
it out. What it says of a group depends on the last write under that group's key alone,
whatever was written under other keys before, after or in between (`find?_afterWrites`). So a
pass that is the only one to write under its key finds its own last report there. A group is
in the snapshot exactly when its last write is a report, and then with the state of that
(`find?_afterWrites_empty_iff`).
-/
import WorkerGroup.Metrics
import WorkerGroup.Proofs.Lists
import WorkerGroup.Proofs.Table.Lookup
import Mathlib.Data.List.Induction

set_option autoImplicit false

namespace WorkerGroup.Collector

/-- Something that is done to a collector. -/
inductive Write where
  | record (report : StateReport)
  | remove (group : String)
deriving DecidableEq

/-- The key that is written under. -/
def Write.key : Write → String
  | .record report => report.group
  | .remove group => group

/-- What the collector says under the key after the write. -/
def Write.item? : Write → Option String
  | .record report => some report.state
  | .remove _ => none

/-- The collector after one write. -/
def write (c : Collector) : Write → Collector
  | .record report => c.record report
  | .remove group => c.remove group

/-- The collector after a history of writes. -/
def afterWrites (c : Collector) (ws : List Write) : Collector :=
  ws.foldl write c

theorem afterWrites_snoc (c : Collector) (ws : List Write) (w : Write) :
    c.afterWrites (ws ++ [w]) = (c.afterWrites ws).write w := by
  rw [afterWrites, List.foldl_append]
  rfl

/-- One write settles what is said under its key and leaves every other key alone. -/
theorem find?_write (c : Collector) (w : Write) (key : String) :
    (c.write w).snapshot.find? key = if key = w.key then w.item? else c.snapshot.find? key := by
  cases w with
  | record report => exact Table.find?_insert c.groups report.group report.state key
  | remove group => exact Table.find?_erase c.groups group key

/-- **The last write under a key decides what is said there**; without one it is what was
said before. The induction is on the history from its end, where a write either is under
the key and decides, or is under another and is passed over by both sides. -/
theorem find?_afterWrites (c : Collector) (ws : List Write) (key : String) :
    (c.afterWrites ws).snapshot.find? key =
      match (ws.filter fun w => w.key = key).getLast? with
      | none => c.snapshot.find? key
      | some w => w.item? := by
  induction ws using List.reverseRecOn with
  | nil => rfl
  | append_singleton ws w ih =>
    rw [afterWrites_snoc, find?_write, List.filter_append]
    by_cases h : key = w.key
    · have own : [w].filter (fun w => w.key = key) = [w] := by simp [h]
      rw [if_pos h, own, List.getLast?_concat]
    · have other : [w].filter (fun w => w.key = key) = [] := by simp [Ne.symm h]
      rw [if_neg h, other, List.append_nil, ih]

/-- A key whose only writes are reports of some states is said to be in the last of them. -/
theorem find?_afterWrites_of_records {c : Collector} {ws : List Write} {key : String}
    {states : List String} (some_state : states ≠ [])
    (only : (ws.filter fun w => w.key = key) = states.map fun s => .record ⟨key, s⟩) :
    (c.afterWrites ws).snapshot.find? key = some (states.getLast some_state) := by
  rw [find?_afterWrites, only, List.getLast?_map, List.getLast?_eq_some_getLast some_state]
  rfl

/-- A group was reported to be in a state, and since then nothing was written under it. -/
def LastRecorded (ws : List Write) (group state : String) : Prop :=
  ∃ before behind, ws = before ++ .record ⟨group, state⟩ :: behind ∧ ∀ w ∈ behind, w.key ≠ group

/-- The last write under a group is a report of a state exactly when that is what it was
last reported to be in. -/
theorem lastRecorded_iff {ws : List Write} {group state : String} :
    LastRecorded ws group state ↔
      (ws.filter fun w => w.key = group).getLast? = some (.record ⟨group, state⟩) := by
  rw [Lists.getLast?_filter_eq_some_iff, LastRecorded, decide_eq_true_iff,
    and_iff_right (show (Write.record ⟨group, state⟩).key = group from rfl)]
  simp only [decide_eq_true_iff, ne_eq]

/-- **A new collector says of a group what was last reported of it**, and says nothing of one
that was never reported or has been taken out since. -/
theorem find?_afterWrites_empty_iff {ws : List Write} {group state : String} :
    (({} : Collector).afterWrites ws).snapshot.find? group = some state ↔
      LastRecorded ws group state := by
  rw [find?_afterWrites, lastRecorded_iff]
  cases last : (ws.filter fun w => w.key = group).getLast? with
  | none => exact iff_of_false nofun nofun
  | some w =>
    have key : w.key = group := of_decide_eq_true (Lists.getLast?_filter_eq_some_iff.1 last).1
    cases w with
    | remove removed => exact iff_of_false nofun nofun
    | record report =>
      obtain rfl : report.group = group := key
      rw [Option.some.injEq, Write.record.injEq]
      constructor
      · intro said
        rw [← Option.some.inj said]
      · intro same
        exact congrArg (fun r => some r.state) same

end WorkerGroup.Collector
