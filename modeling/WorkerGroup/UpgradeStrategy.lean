/-
Upgrade strategies: how the nodes of a group are replaced when what they are launched
from changes.

The library records a strategy and passes its type on to the status; it never acts on
one. So a strategy is data as a manifest gives it: its type may be any text, and the
settings of each kind stand beside it whether the type asks for them or not.
-/
set_option autoImplicit false

namespace WorkerGroup

/-- A number of nodes, or a share of them as a text such as `25%`. -/
inductive NodeShare where
  | count (n : Int32)
  | text (s : String)
deriving DecidableEq

/-- Replacing nodes in place, some at a time. -/
structure RollingUpdate where
  maxUnavailable : Option NodeShare := none
deriving DecidableEq, Inhabited

/-- Handing the replacement over to a custom resource. -/
structure CustomResourceUpdate where
  crdName : String := ""
  /-- The manifest of the custom resource. -/
  spec : String := ""
  statusJsonPath : String := ""
  statusSuccessString : String := ""
  statusFailureString : String := ""
  concurrencyPolicy : Option String := none
  maxRetries : Option Int32 := none
deriving DecidableEq, Inhabited

/-- How nodes are replaced. -/
structure UpgradeStrategy where
  kind : String := ""
  rollingUpdate : Option RollingUpdate := none
  crd : Option CustomResourceUpdate := none
deriving DecidableEq, Inhabited

/-- Whether a strategy says nothing at all. -/
def UpgradeStrategy.isZero (s : UpgradeStrategy) : Bool :=
  s = {}

end WorkerGroup
