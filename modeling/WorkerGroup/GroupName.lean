/-
Group names: the identity of an instance group inside a cluster.

A group is known by its namespace and its name. Written together they are the key under
which the group's state is reported, so a key has to give back both parts: a text is a
group name when it has one slash with something on each side of it.
-/
set_option autoImplicit false

namespace WorkerGroup

/-- A namespace and a name in it. -/
structure GroupName where
  namespaceName : String
  name : String
deriving DecidableEq, Repr, Inhabited

namespace GroupName

/-- The namespace of a group that names none. -/
def defaultNamespace : String := "default"

/-- The namespace and the name with a slash between them. -/
def text (n : GroupName) : String :=
  n.namespaceName ++ "/" ++ n.name

/-- The group name a text is: one slash, and a part that is not empty on each side. -/
def ofText? (s : String) : Option GroupName :=
  let left := s.toList.takeWhile (· ≠ '/')
  match s.toList.dropWhile (· ≠ '/') with
  | _ :: right =>
    if left ≠ [] ∧ right ≠ [] ∧ '/' ∉ right then
      some ⟨String.ofList left, String.ofList right⟩
    else none
  | [] => none

/-- Whether a name is not after another: by the namespace, then by the name. -/
def notAfter (a b : GroupName) : Bool :=
  decide (a.namespaceName < b.namespaceName) ||
    (a.namespaceName == b.namespaceName && decide (a.name ≤ b.name))

/-- The names in order. -/
def sorted (names : List GroupName) : List GroupName :=
  names.mergeSort notAfter

end GroupName

end WorkerGroup
