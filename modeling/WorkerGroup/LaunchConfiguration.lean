/-
Launch configurations: the ones a group owns, and the ones it no longer needs.

A group leaves launch configurations behind as it changes. The active one is kept
whatever its age; of the others, a number of the newest is kept and the rest is pruned,
oldest first. Configurations made in one instant are told apart by name, so the answer
does not depend on the order they were listed in.
-/
import WorkerGroup.Instant.Text
import WorkerGroup.Json
import WorkerGroup.Schema.Dialect

set_option autoImplicit false

namespace WorkerGroup

/-- A launch configuration a group owns. -/
structure LaunchConfiguration where
  name : String
  createdAt : Instant
deriving DecidableEq

namespace LaunchConfiguration

/-- Whether a configuration is no older than another, by its name when both were made in
one instant. -/
def notOlder (a b : LaunchConfiguration) : Bool :=
  decide (b.createdAt.fields < a.createdAt.fields) ||
    (a.createdAt == b.createdAt && decide (b.name ≤ a.name))

/-- The configurations that are not active. -/
def inactive (configurations : List LaunchConfiguration) (active : Option String) :
    List LaunchConfiguration :=
  configurations.filter fun c => some c.name ≠ active

/-- The names of the configurations that are not needed, oldest first. -/
def toPrune (configurations : List LaunchConfiguration) (active : Option String)
    (retention : Nat) : List String :=
  (((inactive configurations active).mergeSort notOlder).drop retention).reverse.map (·.name)

/-- A launch configuration; both fields are required. -/
def decode? {α : Type} (D : Schema.Dialect α) (v : α) : Option LaunchConfiguration := do
  let r ← D.fullRecord? ["name", "created_at"] v
  let name ← r.required? "name" D.text?
  let createdAt ← r.required? "created_at" fun w => (D.text? w).bind Instant.read?
  some { name, createdAt }

/-- A launch configuration as JSON, its instant exact. -/
def encode (c : LaunchConfiguration) : Json :=
  .obj [("name", .str c.name), ("created_at", .str c.createdAt.text)]

end LaunchConfiguration

end WorkerGroup
