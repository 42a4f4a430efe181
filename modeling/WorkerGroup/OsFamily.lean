/-
OS families: which operating system the nodes of a group run, and how bootstrap
parameters reach them.

Three families take a bootstrap script with arguments around it; one takes a single node
configuration document. A family is written by one name. In data the name is exact; an
annotation, which a person types, is matched in any case.
-/
import WorkerGroup.Text.AsciiCase

set_option autoImplicit false

namespace WorkerGroup

/-- The operating system of worker nodes. -/
inductive OsFamily where
  | windows
  | bottlerocket
  | amazonLinux2
  | amazonLinux2023
deriving DecidableEq, Repr

/-- How bootstrap parameters reach a node. -/
inductive BootstrapContract where
  /-- A bootstrap script with kubelet arguments, commands before it and after it. -/
  | script
  /-- One rendered node configuration document. -/
  | nodeConfig
deriving DecidableEq, Repr

namespace OsFamily

/-- The family of a group that says nothing about it. -/
def fallback : OsFamily := amazonLinux2

instance : Inhabited OsFamily := ⟨fallback⟩

/-- The families an annotation may name. -/
def all : List OsFamily :=
  [windows, bottlerocket, amazonLinux2, amazonLinux2023]

/-- The name a family is written by. -/
def name : OsFamily → String
  | windows => "windows"
  | bottlerocket => "bottlerocket"
  | amazonLinux2 => "amazonlinux2"
  | amazonLinux2023 => "amazonlinux2023"

/-- The family a name is written for, taken exactly. -/
def ofName? (s : String) : Option OsFamily :=
  all.find? fun family => family.name == s

/-- The family a name is meant for, in whatever case. -/
def ofText? (s : String) : Option OsFamily :=
  all.find? fun family => Text.sameIgnoringCase family.name s

/-- How bootstrap parameters reach nodes of the family. -/
def contract : OsFamily → BootstrapContract
  | amazonLinux2023 => .nodeConfig
  | windows | bottlerocket | amazonLinux2 => .script

/-- Whether nodes of the family run Windows. -/
def isWindows : OsFamily → Bool
  | windows => true
  | _ => false

end OsFamily

end WorkerGroup
