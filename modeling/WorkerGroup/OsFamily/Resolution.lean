/-
Resolving the OS family of a group.

A node configuration document can only mean one family, so a stage tagged for one
settles the question before any annotation is looked at. Otherwise the annotation is
taken if it names a family, reported and ignored if it does not, and without an
annotation the family is the default one.
-/
import WorkerGroup.Annotations
import WorkerGroup.InstanceGroup
import WorkerGroup.OsFamily
import WorkerGroup.Warning

set_option autoImplicit false

namespace WorkerGroup

/-! ## Stages -/

namespace UserDataStage

/-- The stage that runs before the bootstrap script. -/
def preBootstrap : String := "PreBootstrap"

/-- The stage that runs after the bootstrap script. -/
def postBootstrap : String := "PostBootstrap"

/-- The stage that holds a node configuration document. -/
def nodeConfig : String := "NodeConfigYaml"

end UserDataStage

/-- Whether some stage is tagged for a node configuration document. -/
def hasNodeConfigStage (stages : List UserDataStage) : Bool :=
  stages.any fun s => s.isStage UserDataStage.nodeConfig

/-! ## The family -/

/-- The family of a group, and the annotation that was ignored to find it. -/
structure OsFamilyResolution where
  family : OsFamily
  unsupported : Option String := none
deriving DecidableEq

/-- What is to be reported about a resolution. -/
def OsFamilyResolution.warnings (r : OsFamilyResolution) : List Warning :=
  r.unsupported.toList.map .unsupportedOsFamily

namespace OsFamily

/-- The family of a group with some annotations and stages. -/
def resolve (annotations : Table String) (stages : List UserDataStage) : OsFamilyResolution :=
  if hasNodeConfigStage stages then { family := amazonLinux2023 }
  else match Annotations.osFamily? annotations with
    | none => { family := fallback }
    | some v =>
      match ofText? v with
      | some family => { family }
      | none => { family := fallback, unsupported := some v }

/-- The family of an instance group. -/
def ofGroup (g : InstanceGroup) : OsFamilyResolution :=
  resolve g.annotations g.configuration.userData

end OsFamily

end WorkerGroup
