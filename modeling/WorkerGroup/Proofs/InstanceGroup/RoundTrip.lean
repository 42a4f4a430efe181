/-
An instance group is read as it was written.

A group that was written as JSON holds every time in whole seconds, so what is read again is
not quite the group but `InstanceGroup.inWholeSeconds` of it; everything else comes back. That
covers what may be said in two ways and is kept apart: a map or a list that is empty and one
that is not there, a lock that is off and none, a number of nodes and a text that looks like
one. It is said once for every dialect that shows JSON (`InstanceGroup.decode?_encode`), from
the innermost record outwards, and for JSON it is brought to texts and to values that somebody
else wrote (`InstanceGroup.decode?_encode_json`): to write what was read changes nothing any
more once it was done.
-/
import WorkerGroup.InstanceGroup.Decode
import WorkerGroup.InstanceGroup.Encode
import WorkerGroup.Proofs.Instant.RoundTrip
import WorkerGroup.Proofs.Json.RoundTrip
import WorkerGroup.Proofs.Schema.RoundTrip
import WorkerGroup.Proofs.Table.Entries

set_option autoImplicit false

namespace WorkerGroup

open Schema
open Json (Typed)

/-! ## Groups in whole seconds -/

/-- A taint whose time is a whole second. -/
def Taint.inWholeSeconds (t : Taint) : Taint :=
  { t with timeAdded := t.timeAdded.map Instant.wholeSecond }

/-- Metadata whose times are whole seconds. -/
def Metadata.inWholeSeconds (m : Metadata) : Metadata :=
  { m with
    creationTimestamp := m.creationTimestamp.map Instant.wholeSecond
    deletionTimestamp := m.deletionTimestamp.map Instant.wholeSecond }

/-- A node configuration with the fraction of a second cut off the times of its taints. -/
def NodeConfiguration.inWholeSeconds (c : NodeConfiguration) : NodeConfiguration :=
  { c with taints := c.taints.map Taint.inWholeSeconds }

def NodeScaling.inWholeSeconds (s : NodeScaling) : NodeScaling :=
  { s with configuration := s.configuration.inWholeSeconds }

def GroupSpec.inWholeSeconds (s : GroupSpec) : GroupSpec :=
  { s with eks := s.eks.inWholeSeconds }

/-- A group with the fraction of a second cut off every time in it. -/
def InstanceGroup.inWholeSeconds (g : InstanceGroup) : InstanceGroup :=
  { g with
    metadata := g.metadata.inWholeSeconds
    spec := g.spec.inWholeSeconds }

/-! ## Values -/

section

variable {α : Type} {D : Dialect α} {see : Json → α} [Shows D see]

instance Instant.roundTrip :
    RoundTrip D see (Instant.decode? D) Instant.encodeWhole Instant.wholeSecond where
  isValue _ := trivial
  read_see t := by
    rw [Instant.decode?, Instant.encodeWhole, Shows.text, Option.bind_some,
      Instant.read?_wholeSecondText]

instance Table.roundTrip : RoundTrip D see (Table.decode? D) Table.encode id where
  isValue _ := trivial
  read_see t := by
    rw [Table.decode?, Table.encode, RoundTrip.map?_see, Option.map_some]
    exact congrArg some ((congrArg Table.ofList (List.map_id' t.entries)).trans t.ofList_entries)

@[simp] theorem Table.decode?_encode (t : Table String) :
    Table.decode? D (see t.encode) = some t :=
  Table.roundTrip.read_see t

theorem ReconcileState.ofName?_name (s : ReconcileState) : ofName? s.name = some s := by
  cases s <;> decide

@[simp] theorem ReconcileState.decode?_encode (s : ReconcileState) :
    ReconcileState.decode? D (see s.encode) = some s := by
  rw [ReconcileState.decode?, ReconcileState.encode, Shows.choice, Option.bind_some, ofName?_name]

instance NodeShare.roundTrip : RoundTrip D see (NodeShare.decode? D) NodeShare.encode id where
  isValue s := by cases s <;> trivial
  read_see s := by
    cases s with
    | count n =>
      have least := n.le_toInt
      have most := n.toInt_lt
      rw [NodeShare.decode?, NodeShare.encode,
        Shows.integerOrText_integer ⟨by omega, by omega⟩]
      simp only [Int32.ofInt_toInt]
      exact if_pos ⟨by omega, by omega⟩
    | text s =>
      rw [NodeShare.decode?, NodeShare.encode, Shows.integerOrText_text]
      rfl

/-! ## Records -/

instance RollingUpdate.roundTrip :
    RoundTrip D see (RollingUpdate.decode? D) RollingUpdate.encode id where
  isValue _ := trivial
  read_see u := by
    simp [RollingUpdate.decode?, RollingUpdate.encode]

instance CustomResourceUpdate.roundTrip :
    RoundTrip D see (CustomResourceUpdate.decode? D) CustomResourceUpdate.encode id where
  isValue _ := trivial
  read_see u := by
    simp [CustomResourceUpdate.decode?, CustomResourceUpdate.encode, List.lookup_append,
      List.lookup_cons]

instance UpgradeStrategy.roundTrip :
    RoundTrip D see (UpgradeStrategy.decode? D) UpgradeStrategy.encode id where
  isValue _ := trivial
  read_see s := by
    simp [UpgradeStrategy.decode?, UpgradeStrategy.encode, List.lookup_append, List.lookup_cons]

instance UserDataStage.roundTrip :
    RoundTrip D see (UserDataStage.decode? D) UserDataStage.encode id where
  isValue _ := trivial
  read_see s := by
    simp [UserDataStage.decode?, UserDataStage.encode, List.lookup_cons]

instance VolumeMount.roundTrip :
    RoundTrip D see (VolumeMount.decode? D) VolumeMount.encode id where
  isValue _ := trivial
  read_see m := by
    simp [VolumeMount.decode?, VolumeMount.encode, List.lookup_cons]

instance Volume.roundTrip :
    RoundTrip D see (Volume.decode? D) Volume.encode id where
  isValue _ := trivial
  read_see v := by
    simp [Volume.decode?, Volume.encode, List.lookup_cons]

instance WeightedType.roundTrip :
    RoundTrip D see (WeightedType.decode? D) WeightedType.encode id where
  isValue _ := trivial
  read_see t := by
    simp [WeightedType.decode?, WeightedType.encode, List.lookup_cons]

instance MixedInstancesPolicy.roundTrip :
    RoundTrip D see (MixedInstancesPolicy.decode? D) MixedInstancesPolicy.encode id where
  isValue _ := trivial
  read_see p := by
    simp [MixedInstancesPolicy.decode?, MixedInstancesPolicy.encode, List.lookup_append,
      List.lookup_cons]

instance Taint.roundTrip :
    RoundTrip D see (Taint.decode? D) Taint.encode Taint.inWholeSeconds where
  isValue _ := trivial
  read_see t := by
    simp [Taint.decode?, Taint.encode, openRecord?_obj ["effect", "key", "timeAdded", "value"],
      List.lookup_append, List.lookup_cons, Taint.inWholeSeconds]

@[simp] theorem NodeConfiguration.decode?_encode (c : NodeConfiguration) :
    NodeConfiguration.decode? D (see c.encode) = some c.inWholeSeconds := by
  simp [NodeConfiguration.decode?, NodeConfiguration.encode, List.lookup_append, List.lookup_cons,
    NodeConfiguration.inWholeSeconds]

@[simp] theorem NodeScaling.decode?_encode (s : NodeScaling) :
    NodeScaling.decode? D (see s.encode) = some s.inWholeSeconds := by
  simp [NodeScaling.decode?, NodeScaling.encode, List.lookup_cons, NodeScaling.inWholeSeconds]

@[simp] theorem GroupSpec.decode?_encode (s : GroupSpec) :
    GroupSpec.decode? D (see s.encode) = some s.inWholeSeconds := by
  simp [GroupSpec.decode?, GroupSpec.encode, List.lookup_append, List.lookup_cons,
    GroupSpec.inWholeSeconds]

@[simp] theorem GroupStatus.decode?_encode (s : GroupStatus) :
    GroupStatus.decode? D (see s.encode) = some s := by
  simp [GroupStatus.decode?, GroupStatus.encode, List.lookup_append, List.lookup_cons]

@[simp] theorem Metadata.decode?_encode (m : Metadata) :
    Metadata.decode? D (see m.encode) = some m.inWholeSeconds := by
  simp [Metadata.decode?, Metadata.encode,
    openRecord?_obj ["annotations", "creationTimestamp", "deletionTimestamp", "finalizers",
      "generation", "labels", "name", "namespace", "resourceVersion", "uid"],
    List.lookup_append, Metadata.inWholeSeconds]

/-- **A group comes back in whole seconds**, through whatever dialect it is read. -/
theorem InstanceGroup.decode?_encode (g : InstanceGroup) :
    InstanceGroup.decode? D (see g.encode) = some g.inWholeSeconds := by
  simp [InstanceGroup.decode?, InstanceGroup.encode, List.lookup_cons,
    InstanceGroup.inWholeSeconds]

end

/-! ## Texts -/

@[simp] theorem Table.encode_typed (t : Table String) : t.encode.Typed := by
  simp [encode]

@[simp] theorem NodeShare.encode_typed (s : NodeShare) : s.encode.Typed := by
  cases s <;> simp [encode]

@[simp] theorem RollingUpdate.encode_typed (u : RollingUpdate) : u.encode.Typed := by
  simp [encode]

@[simp] theorem CustomResourceUpdate.encode_typed (u : CustomResourceUpdate) : u.encode.Typed := by
  simp [encode]

@[simp] theorem UpgradeStrategy.encode_typed (s : UpgradeStrategy) : s.encode.Typed := by
  simp [encode]

@[simp] theorem Taint.encode_typed (t : Taint) : t.encode.Typed := by
  simp [encode, Instant.encodeWhole]

@[simp] theorem UserDataStage.encode_typed (s : UserDataStage) : s.encode.Typed := by
  simp [encode]

@[simp] theorem VolumeMount.encode_typed (m : VolumeMount) : m.encode.Typed := by
  simp [encode]

@[simp] theorem Volume.encode_typed (v : Volume) : v.encode.Typed := by
  simp [encode]

@[simp] theorem WeightedType.encode_typed (t : WeightedType) : t.encode.Typed := by
  simp [encode]

@[simp] theorem MixedInstancesPolicy.encode_typed (p : MixedInstancesPolicy) : p.encode.Typed := by
  simp [encode]

@[simp] theorem NodeConfiguration.encode_typed (c : NodeConfiguration) : c.encode.Typed := by
  simp [encode]

@[simp] theorem Metadata.encode_typed (m : Metadata) : m.encode.Typed := by
  simp [encode, Instant.encodeWhole]

/-- Nothing in a group is written as raw text. -/
theorem InstanceGroup.encode_typed (g : InstanceGroup) : g.encode.Typed := by
  simp [encode, NodeScaling.encode, GroupSpec.encode, GroupStatus.encode, ReconcileState.encode]

/-! ## Written again -/

/-- The times of a group in whole seconds are written as those of the group. -/
theorem InstanceGroup.encode_inWholeSeconds (g : InstanceGroup) :
    g.inWholeSeconds.encode = g.encode := by
  have time (o : Option Instant) (key : String) :
      Json.member? key Instant.encodeWhole (o.map Instant.wholeSecond) =
        Json.member? key Instant.encodeWhole o := by
    cases o <;> rfl
  have taint (t : Taint) : t.inWholeSeconds.encode = t.encode := by
    simp only [Taint.encode, Taint.inWholeSeconds, time]
  simp [inWholeSeconds, GroupSpec.inWholeSeconds, NodeScaling.inWholeSeconds,
    NodeConfiguration.inWholeSeconds, Metadata.inWholeSeconds, encode, GroupSpec.encode,
    NodeScaling.encode, NodeConfiguration.encode, Metadata.encode, Json.ofList, time, taint,
    Function.comp_def]

/-- What is written of the group that a value is read as. -/
def InstanceGroup.recode? (v : Json) : Option Json :=
  (InstanceGroup.decode? json v).map InstanceGroup.encode

/-- **A group comes back from JSON in whole seconds**, from the value it is written as and from
its text, and to write what was read changes nothing the second time. -/
theorem InstanceGroup.decode?_encode_json :
    (∀ g : InstanceGroup, InstanceGroup.decode? json g.encode = some g.inWholeSeconds) ∧
    (∀ g : InstanceGroup, (Json.parse? g.encode.compactText).bind (InstanceGroup.decode? json) =
      some g.inWholeSeconds) ∧
    ∀ v : Json, (InstanceGroup.recode? v).bind InstanceGroup.recode? =
      InstanceGroup.recode? v := by
  have value (g : InstanceGroup) : InstanceGroup.decode? json g.encode = some g.inWholeSeconds :=
    show InstanceGroup.decode? json (id g.encode) = some g.inWholeSeconds from
      InstanceGroup.decode?_encode g
  refine ⟨value, fun g => ?_, fun v => ?_⟩
  · rw [Json.parse?_compactText g.encode_typed, Option.bind_some, value]
  · -- Whatever was read, it is a group, and of groups all is known.
    rw [InstanceGroup.recode?]
    cases InstanceGroup.decode? json v with
    | none => rfl
    | some g =>
      rw [Option.map_some, Option.bind_some, InstanceGroup.recode?, value, Option.map_some,
        InstanceGroup.encode_inWholeSeconds]

end WorkerGroup
