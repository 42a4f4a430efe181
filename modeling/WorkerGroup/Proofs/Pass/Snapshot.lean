/-
The snapshot is the one that was last handed in, and the pool on it is the last one that
was answered since.

A pass may have several clients, and each of them works in critical sections of its own:
one operation under the lock. What they do to a pass is then a list of calls, in which the
calls of each client are its program, in order (`Interleaves`), and the turns of any such
list are a run.

Two operations write the snapshot. One replaces it as a whole, the other writes the pool on
the one there is; a third, a change in place, could do anything and is left out here. All
the others at most make the empty snapshot where there was none, which nobody can tell from
none. `snapshot_reply` says so for one turn, and `snapshot_after` for a run: the induction
is on the run from its end, where a turn either hands a snapshot in, and nothing before it
counts any more, or leaves the one there is and perhaps adds to the pools that were
answered since.
-/
import WorkerGroup.Fixture
import WorkerGroup.Proofs.Pass.Moments
import Mathlib.Data.List.DropRight
import Mathlib.Data.List.Induction

set_option autoImplicit false

namespace WorkerGroup.Pass

/-! ## Clients -/

/-- A turn and the client that takes it. -/
structure Call (Client : Type) where
  client : Client
  turn : Turn

section

variable {Client : Type} [DecidableEq Client]

/-- Calls of several clients in one order, each of which goes through its program. -/
def Interleaves (programs : Client → List Turn) (calls : List (Call Client)) : Prop :=
  ∀ c, (calls.filter fun call => call.client = c).map Call.turn = programs c

/-- A call is in the program of its client. -/
theorem Interleaves.mem_program {programs : Client → List Turn} {calls : List (Call Client)}
    (h : Interleaves programs calls) {call : Call Client} (hc : call ∈ calls) :
    call.turn ∈ programs call.client := by
  rw [← h call.client]
  apply List.mem_map_of_mem
  rw [List.mem_filter]
  exact ⟨hc, decide_eq_true rfl⟩

end

/-! ## What is handed in and what is answered -/

/-- The snapshot a turn hands in, if any. -/
def Turn.given? (t : Turn) : Option DiscoveredState :=
  match t.operation with
  | .setDiscovered d => some d
  | .ask _ | .setState _ | .discoverTransition | .ensureUnlocked | .editDiscovered _
  | .editGroup _ => none

/-- The turn changes the snapshot in place. -/
def Turn.EditsSnapshot (t : Turn) : Prop :=
  ∃ f, t.operation = .editDiscovered f

/-- The pool that is answered at a moment, if one is asked for; there may be none to answer. -/
def Moment.pool? (m : Moment) : Option (Option InstancePool) :=
  match m.reply.result with
  | .ok (.pool pool) => some pool
  | _ => none

/-- The snapshot that was last handed in during a run, the empty one if none was. -/
def lastGiven (ts : List Turn) : DiscoveredState :=
  (ts.filterMap Turn.given?).getLastD {}

/-- The pools that were answered since a snapshot was last handed in, or since the start
if none was. -/
def poolsSinceGiven (p : Pass) (ts : List Turn) : List (Option InstancePool) :=
  ((p.moments ts).rtakeWhile fun m => m.turn.given?.isNone).filterMap Moment.pool?

/-! ## One turn -/

/-- **What a turn does to the snapshot**: it hands another in, or it leaves the one there
is, with the pool on it if that was asked for. -/
theorem snapshot_reply {m : Moment} (h : ¬ m.turn.EditsSnapshot) :
    m.reply.pass.snapshot =
      match m.turn.given? with
      | some d => d
      | none =>
        { m.pass.snapshot with instancePool := m.pool?.getD m.pass.snapshot.instancePool } := by
  obtain ⟨p, ⟨op, v⟩⟩ := m
  cases op with
  | ask query => cases query <;> rfl
  | setState s => cases v <;> rfl
  | discoverTransition =>
    simp only [Moment.reply, Moment.pool?, Turn.given?, step]
    cases p.group.isLocked with
    | true => rfl
    | false => cases v <;> rfl
  | ensureUnlocked =>
    simp only [Moment.reply, Moment.pool?, Turn.given?, step]
    cases p.group.isLocked <;> rfl
  | setDiscovered d => rfl
  | editDiscovered f => exact absurd ⟨f, rfl⟩ h
  | editGroup f => rfl

/-! ## Runs -/

section

variable {p : Pass} {ts : List Turn} {t : Turn}

theorem lastGiven_concat : lastGiven (ts ++ [t]) = t.given?.getD (lastGiven ts) := by
  rw [lastGiven, List.filterMap_append]
  cases given : t.given? with
  | none => simp [given, lastGiven]
  | some d => simp [given]

/-- A turn that hands a snapshot in starts the pools anew, and any other adds the one it
was answered. -/
theorem poolsSinceGiven_concat :
    p.poolsSinceGiven (ts ++ [t]) =
      if t.given?.isNone then
        p.poolsSinceGiven ts ++ (Moment.pool? ⟨p.after ts, t⟩).toList
      else [] := by
  rw [poolsSinceGiven, moments_append, moments_cons, moments_nil, List.rtakeWhile_concat]
  cases t.given?.isNone with
  | false => rfl
  | true =>
    rw [if_pos rfl, if_pos rfl, List.filterMap_append, ← poolsSinceGiven,
      List.filterMap_eq_flatMap_toList _ [_], List.flatMap_singleton]

/-- **The snapshot after a run** is the one that was last handed in, but for the pool on
it, which is the last one that was answered since, if one was. -/
theorem snapshot_after (fresh : p.snapshot = {}) (replaced : ∀ t ∈ ts, ¬ t.EditsSnapshot) :
    (p.after ts).snapshot =
      { lastGiven ts with
        instancePool := (p.poolsSinceGiven ts).getLastD (lastGiven ts).instancePool } := by
  induction ts using List.reverseRecOn with
  | nil => exact fresh
  | append_singleton ts t ih =>
    have before := ih fun t ht => replaced t (List.mem_append_left _ ht)
    have now := snapshot_reply (m := ⟨p.after ts, t⟩) (replaced t (by simp))
    have after : (p.after (ts ++ [t])).snapshot = (Moment.reply ⟨p.after ts, t⟩).pass.snapshot := by
      rw [after_append]
      rfl
    rw [after, now, lastGiven_concat, poolsSinceGiven_concat]
    cases given : t.given? with
    | some d => rfl
    | none =>
      simp only [before, Option.getD_none, Option.isNone_none, if_true]
      cases Moment.pool? ⟨p.after ts, t⟩ with
      | none => rw [Option.toList_none, List.append_nil, Option.getD_none]
      | some pool => rw [Option.toList_some, List.getLastD_concat, Option.getD_some]

/-- A pass starts without a snapshot. -/
theorem snapshot_start {g : InstanceGroup} {settings : Settings} {v : Verdict}
    (h : start g settings v = .ok p) : p.snapshot = {} := by
  rw [eq_of_start h]
  rfl

/-- What was last handed in was handed in by one of the turns. -/
theorem lastGiven_eq_or_mem (ts : List Turn) :
    (lastGiven ts = {} ∧ ∀ t ∈ ts, t.given? = none) ∨ ∃ t ∈ ts, t.given? = some (lastGiven ts) := by
  cases given : ts.filterMap Turn.given? with
  | nil =>
    left
    rw [lastGiven, given]
    exact ⟨rfl, List.filterMap_eq_nil_iff.1 given⟩
  | cons d ds =>
    right
    have last : lastGiven ts ∈ ts.filterMap Turn.given? := by
      rw [lastGiven, given, List.getLastD_cons]
      exact List.getLastD_mem_cons
    exact List.mem_filterMap.1 last

end

/-- **The snapshot of a pass with several clients.** Whatever the clients do and in
whichever order their calls come, as long as none of them changes the snapshot in place,
after any of the calls:

- the snapshot is in every field but its pool the one that was last handed in, the empty
  one if none was, and its pool is the last one that was answered since, even if that was
  none, and otherwise the one that was handed in with it;
- the one that was last handed in is as a whole in the program of one of the clients;
- right after it was handed in it is there as it is, with nothing left of what was
  answered before. -/
theorem snapshot_is_last_given {g : InstanceGroup} {settings : Settings} {v : Verdict} {p : Pass}
    {Client : Type} [DecidableEq Client] {programs : Client → List Turn}
    {calls before rest : List (Call Client)} (h : start g settings v = .ok p)
    (interleaved : Interleaves programs calls)
    (replaced : ∀ c, ∀ t ∈ programs c, ¬ t.EditsSnapshot) (cut : calls = before ++ rest) :
    let ts := before.map Call.turn
    let d := lastGiven ts
    (p.after ts).answer .discovered =
      .snapshot { d with instancePool := (p.poolsSinceGiven ts).getLastD d.instancePool } ∧
    ((d = {} ∧ ∀ t ∈ ts, t.given? = none) ∨ ∃ c, ∃ t ∈ programs c, t.given? = some d) ∧
    ∀ earlier t handed, ts = earlier ++ [t] → t.given? = some handed →
      (p.after ts).answer .discovered = .snapshot handed := by
  intro ts d
  have owned : ∀ t ∈ ts, ∃ c, t ∈ programs c := by
    intro t ht
    obtain ⟨call, hc, rfl⟩ := List.mem_map.1 ht
    exact ⟨call.client, interleaved.mem_program (cut ▸ List.mem_append_left rest hc)⟩
  have kept : ∀ t ∈ ts, ¬ t.EditsSnapshot := by
    intro t ht
    obtain ⟨c, hc⟩ := owned t ht
    exact replaced c t hc
  have snapshot := snapshot_after (snapshot_start h) kept
  refine ⟨congrArg Answer.snapshot snapshot, ?_, fun earlier t handed last given => ?_⟩
  · obtain none | ⟨t, ht, given⟩ := lastGiven_eq_or_mem ts
    · exact .inl none
    · obtain ⟨c, hc⟩ := owned t ht
      exact .inr ⟨c, t, hc, given⟩
  · have newest : lastGiven ts = handed := by
      rw [last, lastGiven_concat, given, Option.getD_some]
    have pools : p.poolsSinceGiven ts = [] := by
      rw [last, poolsSinceGiven_concat, given]
      rfl
    rw [pools, newest] at snapshot
    exact congrArg Answer.snapshot snapshot

/-- Two clients: one hands a snapshot in and the other asks for the pool, then the other
hands its own in and the first, whose transition the sink refuses, asks for the pool. The
pool that was answered for the first snapshot is gone, and the second has its own. -/
theorem snapshot_is_last_given_of_two_clients :
    let g := Fixture.instancePool "SubFamilyFlexible" Fixture.anyGroup
    let p := ((prepare g {}).recordState .init).edit stamp
    let one : DiscoveredState := { offerings := [Fixture.offering "m5.large" "x86_64" 2 8192] }
    let two : DiscoveredState := { provisioned := true, nodeCount := 3 }
    let programs : Bool → List Turn := fun first =>
      if first then
        [{ operation := .setDiscovered one },
         { operation := .discoverTransition, verdict := .error (.unavailable "down") },
         { operation := .ask .instancePool }]
      else
        [{ operation := .ask .instancePool }, { operation := .setDiscovered two }]
    let calls : List (Call Bool) :=
      [⟨true, { operation := .setDiscovered one }⟩, ⟨false, { operation := .ask .instancePool }⟩,
       ⟨false, { operation := .setDiscovered two }⟩,
       ⟨true, { operation := .discoverTransition, verdict := .error (.unavailable "down") }⟩,
       ⟨true, { operation := .ask .instancePool }⟩]
    start g {} (.ok ()) = .ok p ∧ Interleaves programs calls ∧
      (∀ c, ∀ t ∈ programs c, ¬ t.EditsSnapshot) ∧
      (p.after (calls.map Call.turn)).answer .discovered =
        .snapshot { two with instancePool := some (.subFamilyFlexible []) } := by
  intro g p one two programs calls
  have started : start g {} (.ok ()) = .ok p := rfl
  have interleaved : Interleaves programs calls := by
    intro c
    cases c <;> rfl
  have replaced : ∀ c, ∀ t ∈ programs c, ¬ t.EditsSnapshot := by
    rintro c t ht ⟨f, edited⟩
    cases c with
    | true =>
      simp only [programs, if_true, List.mem_cons, List.not_mem_nil, or_false] at ht
      obtain rfl | rfl | rfl := ht <;> cases edited
    | false =>
      simp only [programs, Bool.false_eq_true, if_false, List.mem_cons, List.not_mem_nil,
        or_false] at ht
      obtain rfl | rfl := ht <;> cases edited
  obtain ⟨snapshot, -, -⟩ := snapshot_is_last_given started interleaved replaced
    (List.append_nil calls).symm
  exact ⟨started, interleaved, replaced, snapshot⟩

end WorkerGroup.Pass
