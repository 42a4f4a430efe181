/-
The moments of a run: every turn, with the pass it is taken from.

A run hands back replies, and a reply does not say what was asked of which pass. What is
claimed about runs is claimed turn by turn, though: *whenever* the family is asked for,
it is the family of the group *as it stands then*. So a run is first laid out as the list
of its moments, `moments`, and a statement about a run is a statement about every member
of that list. Nothing is lost by it: the replies are those moments' steps in order
(`run_eq_map_moments`), and the moments are exactly what a run splits into
(`mem_moments_iff`).

The induction over runs is done once, in `moments_induction`: what holds of the first
pass and is kept at every moment holds at every moment and at the end. An invariant that
no operation can break uses its corollary `after_induction`.
-/
import WorkerGroup.Pass.Step

set_option autoImplicit false

namespace WorkerGroup.Pass

/-! ## The start -/

/-- There is one pass that a group and some settings can start. -/
theorem eq_of_start {g : InstanceGroup} {settings : Settings} {v : Verdict} {p : Pass}
    (h : start g settings v = .ok p) : p = ((prepare g settings).recordState .init).edit stamp := by
  cases v with
  | ok u => exact (Except.ok.inj h).symm
  | error cause => cases h

/-! ## Laying a run out -/

/-- A turn together with the pass it is taken from. -/
structure Moment where
  pass : Pass
  turn : Turn

/-- What comes of a moment. -/
def Moment.reply (m : Moment) : Reply :=
  m.pass.step m.turn.operation m.turn.verdict

/-- The moments of a run, in order. -/
def moments (p : Pass) : List Turn → List Moment
  | [] => []
  | t :: ts => ⟨p, t⟩ :: moments (p.step t.operation t.verdict).pass ts

@[simp] theorem moments_nil (p : Pass) : p.moments [] = [] := rfl

@[simp] theorem moments_cons (p : Pass) (t : Turn) (ts : List Turn) :
    p.moments (t :: ts) = ⟨p, t⟩ :: (p.step t.operation t.verdict).pass.moments ts := rfl

@[simp] theorem after_nil (p : Pass) : p.after [] = p := rfl

@[simp] theorem after_cons (p : Pass) (t : Turn) (ts : List Turn) :
    p.after (t :: ts) = (p.step t.operation t.verdict).pass.after ts := rfl

theorem after_append (p : Pass) (ts us : List Turn) :
    p.after (ts ++ us) = (p.after ts).after us := by
  rw [after, List.foldl_append]
  rfl

/-- A run can be cut anywhere: its moments are those before the cut and those of the run
that goes on from there. -/
theorem moments_append (p : Pass) (ts us : List Turn) :
    p.moments (ts ++ us) = p.moments ts ++ (p.after ts).moments us := by
  induction ts generalizing p with
  | nil => rfl
  | cons t ts ih => rw [List.cons_append, moments_cons, moments_cons, after_cons, ih]; rfl

/-- The replies of a run are what comes of its moments. -/
theorem run_eq_map_moments (p : Pass) (ts : List Turn) :
    p.run ts = (p.moments ts).map Moment.reply := by
  induction ts generalizing p with
  | nil => rfl
  | cons t ts ih => rw [run, moments_cons, List.map_cons, ih]; rfl

/-- What the sink was told during a run, moment by moment. -/
theorem reports_eq_flatMap_moments (p : Pass) (ts : List Turn) :
    p.reports ts = (p.moments ts).flatMap fun m => m.reply.reports := by
  rw [reports, run_eq_map_moments, List.flatMap_map]

/-- **The moments of a run are its splits**: what was done before, and a turn with what
is still to come. -/
theorem mem_moments_iff {p : Pass} {ts : List Turn} {m : Moment} :
    m ∈ p.moments ts ↔ ∃ before rest, ts = before ++ m.turn :: rest ∧ m.pass = p.after before := by
  induction ts generalizing p with
  | nil => simp
  | cons t ts ih =>
    rw [moments_cons, List.mem_cons, ih]
    -- A split has nothing before its turn, and is at the first moment, or the first turn is
    -- among what comes before, and it is a split of the rest.
    constructor
    · rintro (rfl | ⟨before, rest, rfl, hm⟩)
      · exact ⟨[], ts, rfl, rfl⟩
      · exact ⟨t :: before, rest, rfl, hm⟩
    · rintro ⟨before, rest, hts, hm⟩
      cases before with
      | nil =>
        obtain ⟨rfl, rfl⟩ := List.cons.inj hts
        exact .inl (by rw [after_nil] at hm; rw [← hm])
      | cons t' before =>
        obtain ⟨rfl, rfl⟩ := List.cons.inj hts
        exact .inr ⟨before, rest, rfl, hm⟩

/-- The turn of a moment is one of the run's. -/
theorem turn_mem_of_mem_moments {p : Pass} {ts : List Turn} {m : Moment}
    (hm : m ∈ p.moments ts) : m.turn ∈ ts := by
  obtain ⟨before, rest, split, -⟩ := mem_moments_iff.1 hm
  simp [split]

/-! ## The induction over runs -/

/-- **The induction over runs.** What holds of the pass a run starts from, and is kept
at each of its moments, holds at every moment and of the pass after the run. -/
theorem moments_induction {I : Pass → Prop} {p : Pass} {ts : List Turn} (start : I p)
    (keep : ∀ m ∈ p.moments ts, I m.pass → I m.reply.pass) :
    (∀ m ∈ p.moments ts, I m.pass) ∧ I (p.after ts) := by
  induction ts generalizing p with
  | nil => exact ⟨fun m hm => by simp at hm, start⟩
  | cons t ts ih =>
    rw [moments_cons] at keep ⊢
    have next : I (p.step t.operation t.verdict).pass := keep ⟨p, t⟩ List.mem_cons_self start
    have later := ih next fun m hm => keep m (List.mem_cons_of_mem _ hm)
    exact ⟨List.forall_mem_cons.2 ⟨start, later.1⟩, later.2⟩

/-- What no operation can break holds all through a run. -/
theorem after_induction {I : Pass → Prop} (keep : ∀ q op v, I q → I (q.step op v).pass)
    {p : Pass} (start : I p) (ts : List Turn) :
    (∀ m ∈ p.moments ts, I m.pass) ∧ I (p.after ts) :=
  moments_induction start fun m _ hm => keep m.pass m.turn.operation m.turn.verdict hm

end WorkerGroup.Pass
