/-
Reconcile states: where an instance group stands in its lifecycle.

A group starts in `init` and leaves it for the state its pass starts from; the states
after that are reached by other parts of a controller and are only recorded here. The
order of `all` is the order of the lifecycle, which is also the order a state gauge
lists its series in.
-/
set_option autoImplicit false

namespace WorkerGroup

/-- The state of an instance group. -/
inductive ReconcileState where
  /-- A pass has begun and nothing was found out yet. -/
  | init
  /-- Nothing is provisioned and it should be. -/
  | initCreate
  /-- Something is provisioned and is to be kept up to date. -/
  | initUpdate
  | initUpgrade
  /-- Something is provisioned and is to be deleted. -/
  | initDelete
  | reconcileModifying
  | reconcileModified
  | deleting
  | deleted
  | ready
  | error
  | locked
deriving DecidableEq, Repr, Inhabited

namespace ReconcileState

/-- Every state, in the order of the lifecycle. -/
def all : List ReconcileState :=
  [init, initCreate, initUpdate, initUpgrade, initDelete, reconcileModifying,
    reconcileModified, deleting, deleted, ready, error, locked]

/-- The name a state is written by. -/
def name : ReconcileState → String
  | init => "Init"
  | initCreate => "InitCreate"
  | initUpdate => "InitUpdate"
  | initUpgrade => "InitUpgrade"
  | initDelete => "InitDelete"
  | reconcileModifying => "ReconcileModifying"
  | reconcileModified => "ReconcileModified"
  | deleting => "Deleting"
  | deleted => "Deleted"
  | ready => "Ready"
  | error => "Error"
  | locked => "Locked"

/-- The state a name is written for; names are taken exactly. -/
def ofName? (s : String) : Option ReconcileState :=
  all.find? fun state => state.name == s

/-- Whether a pass in this state has not acted yet. -/
def isInit : ReconcileState → Bool
  | init | initCreate | initUpdate | initUpgrade | initDelete => true
  | _ => false

/-- Whether nothing is left to do in this state. -/
def isTerminal : ReconcileState → Bool
  | ready | deleted | error => true
  | _ => false

end ReconcileState

end WorkerGroup
