/-
Failures: what can stop a text from being read, or a step of a pass from being taken.

Resolving a group never fails; only texts that are no name of anything, collaborators
that refuse a write, groups that are locked and settings that are no settings do. Each
cause is a constructor with what it was about, and its wording is in one place.
-/
import WorkerGroup.GroupName

set_option autoImplicit false

namespace WorkerGroup

/-! ## Texts -/

/-- Why a text could not be read. -/
inductive ReadFailure where
  | unknownState (text : String)
  | invalidGroupName (text : String)
  | unsupportedOsFamily (text : String)
  | unknownPoolKind (text : String)
deriving DecidableEq, Repr

/-- The wording of a text that could not be read. -/
def ReadFailure.message : ReadFailure → String
  | unknownState s => "unknown reconcile state: " ++ s
  | invalidGroupName s => "invalid namespaced name: " ++ s
  | unsupportedOsFamily s => "unsupported os family: " ++ s
  | unknownPoolKind s => "unknown instance pool type: " ++ s

/-! ## Collaborators -/

/-- Why a metrics sink did not take a state. -/
inductive SinkFailure where
  /-- The sink could not be reached. -/
  | unavailable (reason : String)
  /-- The sink refused the state of a group. -/
  | rejected (group state reason : String)
deriving DecidableEq, Repr

/-- The wording of a state that was not taken. -/
def SinkFailure.message : SinkFailure → String
  | unavailable reason => "metrics sink unavailable: " ++ reason
  | rejected group state reason =>
    "metrics sink rejected " ++ group ++ "=" ++ state ++ ": " ++ reason

/-- Why the cloud gave no answer. -/
inductive CloudFailure where
  | clusterNotFound (name : String)
  | request (reason : String)
deriving DecidableEq, Repr

/-- The wording of an answer the cloud did not give. -/
def CloudFailure.message : CloudFailure → String
  | clusterNotFound name => "cluster not found: " ++ name
  | request reason => "aws request failed: " ++ reason

/-- Why the cluster gave no answer. -/
inductive ClusterFailure where
  | notFound (what : String)
  | request (reason : String)
deriving DecidableEq, Repr

/-- The wording of an answer the cluster did not give. -/
def ClusterFailure.message : ClusterFailure → String
  | notFound what => "resource not found: " ++ what
  | request reason => "kubernetes request failed: " ++ reason

/-- A setting that is none: the name of its variable and the value. -/
structure SettingFailure where
  name : String
  value : String
deriving DecidableEq, Repr

/-- The wording of a setting that is none. -/
def SettingFailure.message (f : SettingFailure) : String :=
  "invalid value for " ++ f.name ++ ": " ++ f.value

/-! ## Passes -/

/-- Why a step of a pass was not taken. -/
inductive PassFailure where
  | sink (cause : SinkFailure)
  /-- Changes to the group are suspended. -/
  | locked (group : GroupName)
  | cloud (cause : CloudFailure)
  | cluster (cause : ClusterFailure)
  | setting (cause : SettingFailure)
deriving DecidableEq, Repr

namespace PassFailure

/-- The wording of a step that was not taken. -/
def message : PassFailure → String
  | sink cause => cause.message
  | locked group => "instance group " ++ group.text ++ " is locked"
  | cloud cause => cause.message
  | cluster cause => cause.message
  | setting cause => cause.message

/-- Whether the group was locked. -/
def isLocked : PassFailure → Bool
  | locked _ => true
  | _ => false

/-- Whether the metrics sink did not take a state. -/
def isSinkUnavailable : PassFailure → Bool
  | sink _ => true
  | _ => false

end PassFailure

end WorkerGroup
