/-
Node labels: the labels that nodes of a group register with.

Every node carries its group's role in the present form and in the legacy one, whether
it runs on spot capacity, and the image if there is one; an annotation turns these
default labels off. Labels of the group's own are laid over the default ones and win.
-/
import WorkerGroup.Annotations
import WorkerGroup.InstanceGroup

set_option autoImplicit false

namespace WorkerGroup.Bootstrap

/-! ## Keys -/

/-- The key of the role. -/
def roleLabel : String := "node.kubernetes.io/role"

/-- The key of the role in its legacy form, where the name is part of the key. -/
def legacyRoleLabel (name : String) : String := "node-role.kubernetes.io/" ++ name

/-- The key of the lifecycle: spot capacity or not. -/
def lifecycleLabel : String := "instancemgr.keikoproj.io/lifecycle"

/-- The key of the image. -/
def imageLabel : String := "instancemgr.keikoproj.io/image"

/-! ## Labels -/

/-- Whether the group runs on spot capacity, as a label has it. -/
def lifecycle (c : NodeConfiguration) : String :=
  if c.isSpot then "spot" else "normal"

/-- The labels nodes carry unless default labels are off. -/
def defaultLabels (g : InstanceGroup) : Table String :=
  let base : Table String := .ofList
    [(roleLabel, g.name), (legacyRoleLabel g.name, ""),
     (lifecycleLabel, lifecycle g.configuration)]
  if g.configuration.image = "" then base
  else base.insert imageLabel g.configuration.image

/-- The labels nodes carry. -/
def nodeLabels (g : InstanceGroup) : Table String :=
  (if Annotations.defaultLabels g.annotations then defaultLabels g else ∅).insertAll
    g.configuration.labels.entries

end WorkerGroup.Bootstrap
