/-
What is fixed when a pass starts.

The resource prefix, the retention and the switch for Windows nodes are taken down once,
from the group and the settings a pass is started with, and no operation writes them
again: not an edit of the group either, although the prefix was computed from it. So each
of the three can be read off the start of a run at any of its moments.
-/
import WorkerGroup.Proofs.Pass.Moments

set_option autoImplicit false

namespace WorkerGroup.Pass

/-- The part of a pass that is fixed when it starts. -/
def fixedPart (p : Pass) : String × UInt64 × Bool :=
  (p.resourcePrefix, p.configRetention, p.disableWindowsClusterIp)

/-- What a group and some settings fix for every pass started with them. -/
theorem fixedPart_start {g : InstanceGroup} {settings : Settings} {v : Verdict} {p : Pass}
    (h : start g settings v = .ok p) :
    p.fixedPart =
      (ResourceNames.prefixOf g, settings.configRetention, settings.disableWindowsClusterIp) := by
  rw [eq_of_start h]
  rfl

/-- No operation touches the fixed part. -/
theorem fixedPart_step (p : Pass) (op : Operation) (v : Verdict) :
    (p.step op v).pass.fixedPart = p.fixedPart := by
  cases op with
  | ask query => cases query <;> rfl
  | discoverTransition =>
    rw [step]
    split
    · rfl
    · rfl
  | setState _ | ensureUnlocked | setDiscovered _ | editDiscovered _ | editGroup _ => rfl

/-- The fixed part is the same at every moment of a run and at its end. -/
theorem fixedPart_after (p : Pass) (ts : List Turn) :
    (∀ m ∈ p.moments ts, m.pass.fixedPart = p.fixedPart) ∧
      (p.after ts).fixedPart = p.fixedPart :=
  after_induction (fun q op v (hq : q.fixedPart = p.fixedPart) => (fixedPart_step q op v).trans hq)
    rfl ts

/-- From its start on a pass has the prefix of the group it was started with. -/
theorem resourcePrefix_after {g : InstanceGroup} {settings : Settings} {v : Verdict} {p : Pass}
    (h : start g settings v = .ok p) (ts : List Turn) :
    (p.after ts).resourcePrefix = ResourceNames.prefixOf g :=
  congrArg (fun part => part.1) ((fixedPart_after p ts).2.trans (fixedPart_start h))

end WorkerGroup.Pass
