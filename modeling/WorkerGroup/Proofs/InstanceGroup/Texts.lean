/-
The texts of an instance group.

What a group is written in comes from three sides. The names of fields and states are those of
the format; times and numbers are spelled in digits and a few marks; and the rest are the group's
own words: its name, its images and arguments, and the keys and values of its maps. Only the last
can be anything, so it is they that decide whether another reader takes the written group for what
it is. A group is `Legible` if all of its own words are, and then so is everything it is written
in (`InstanceGroup.encode_within_iff`).
-/
import WorkerGroup.Proofs.InstanceGroup.RoundTrip
import WorkerGroup.Proofs.Yaml.Flow

set_option autoImplicit false

namespace WorkerGroup

/-! ## Readable texts -/

namespace Yaml

variable {β : Type} {texts : β → List String}

/-- Texts all of which are readable. -/
def AllReadable (texts : List String) : Prop :=
  ∀ s ∈ texts, Readable s

@[simp] theorem allReadable_nil : AllReadable [] :=
  nofun

@[simp] theorem allReadable_cons (s : String) (ss : List String) :
    AllReadable (s :: ss) ↔ Readable s ∧ AllReadable ss :=
  List.forall_mem_cons

@[simp] theorem allReadable_append (ss others : List String) :
    AllReadable (ss ++ others) ↔ AllReadable ss ∧ AllReadable others :=
  List.forall_mem_append

@[simp] theorem allReadable_flatMap (l : List β) :
    AllReadable (l.flatMap texts) ↔ ∀ b ∈ l, AllReadable (texts b) :=
  List.forall_mem_flatMap

@[simp] theorem allReadable_flatten (l : List (List String)) :
    AllReadable l.flatten ↔ ∀ ss ∈ l, ∀ s ∈ ss, Readable s :=
  List.forall_mem_flatten

@[simp] theorem allReadable_toList (o : Option String) :
    AllReadable o.toList ↔ ∀ s ∈ o, Readable s := by
  simp [AllReadable]

instance (texts : List String) : Decidable (AllReadable texts) :=
  List.decidableBAll Readable texts

theorem isReadable_of_isDigit {c : Char} (h : Text.Decimal.isDigit c = true) : IsReadable c := by
  rw [Text.Decimal.isDigit, Bool.and_eq_true, decide_eq_true_eq, decide_eq_true_eq] at h
  exact .inr (.inr ⟨Char.le_trans (by decide) h.1, Char.le_trans h.2 (by decide)⟩)

end Yaml

open Yaml (AllReadable IsReadable Readable ShortKey)

/-! ## A group's own words -/

def NodeShare.texts : NodeShare → List String
  | .count _ => []
  | .text s => [s]

def CustomResourceUpdate.texts (u : CustomResourceUpdate) : List String :=
  [u.crdName, u.spec, u.statusJsonPath, u.statusSuccessString, u.statusFailureString] ++
    u.concurrencyPolicy.toList

def UpgradeStrategy.texts (s : UpgradeStrategy) : List String :=
  [s.kind] ++
    s.rollingUpdate.toList.flatMap (fun u => u.maxUnavailable.toList.flatMap NodeShare.texts) ++
    s.crd.toList.flatMap CustomResourceUpdate.texts

def Taint.texts (t : Taint) : List String :=
  [t.effect, t.key] ++ t.value.toList

def UserDataStage.texts (s : UserDataStage) : List String :=
  [s.name, s.stage, s.data]

def VolumeMount.texts (m : VolumeMount) : List String :=
  [m.fileSystem, m.mount]

def Volume.texts (v : Volume) : List String :=
  [v.name, v.kind] ++ v.mountOptions.toList.flatMap VolumeMount.texts

def WeightedType.texts (t : WeightedType) : List String :=
  [t.kind, t.weight]

def MixedInstancesPolicy.texts (p : MixedInstancesPolicy) : List String :=
  p.strategy.toList ++ p.instancePool.toList ++ p.instanceTypes.flatMap WeightedType.texts ++
    p.spotRatio.toList

/-- The texts of a node configuration beside its labels. -/
def NodeConfiguration.texts (c : NodeConfiguration) : List String :=
  [c.clusterName, c.image, c.instanceType, c.bootstrapArguments] ++
    c.taints.flatMap Taint.texts ++ c.userData.flatMap UserDataStage.texts ++
    c.volumes.flatMap Volume.texts ++ c.spotPrice.toList ++
    c.mixedInstancesPolicy.toList.flatMap MixedInstancesPolicy.texts

/-- The texts of metadata beside annotations and labels. -/
def Metadata.texts (m : Metadata) : List String :=
  m.finalizers.toList.flatten ++ m.name.toList ++ m.namespaceName.toList ++
    m.resourceVersion.toList ++ m.uid.toList

def GroupStatus.texts (s : GroupStatus) : List String :=
  [s.provisioner, s.strategy] ++ s.activeScalingGroupName.toList ++
    s.activeLaunchConfigurationName.toList

/-- A map of readable texts under keys that are short. -/
def Table.Legible (t : Table String) : Prop :=
  ∀ e ∈ t.entries, ShortKey e.1 ∧ Readable e.2

instance (t : Table String) : Decidable t.Legible :=
  inferInstanceAs (Decidable (∀ e ∈ t.entries, ShortKey e.1 ∧ Readable e.2))

namespace InstanceGroup

/-- The texts of a group beside its maps. -/
def texts (g : InstanceGroup) : List String :=
  [g.apiVersion, g.kind, g.spec.provisioner] ++ g.metadata.texts ++
    g.spec.strategy.toList.flatMap UpgradeStrategy.texts ++ g.configuration.texts ++
    g.status.texts

/-- The maps of a group. -/
def tables (g : InstanceGroup) : List (Table String) :=
  g.metadata.annotations.toList ++ g.metadata.labels.toList ++ [g.configuration.labels]

/-- A group of readable texts, whose maps have keys that are short. -/
def Legible (g : InstanceGroup) : Prop :=
  AllReadable g.texts ∧ ∀ t ∈ g.tables, t.Legible

instance (g : InstanceGroup) : Decidable g.Legible :=
  inferInstanceAs (Decidable (AllReadable g.texts ∧ ∀ t ∈ g.tables, t.Legible))

end InstanceGroup

/-! ## Times and states -/

/-- A time is written in digits and in marks between them. -/
theorem Instant.readable_text (t : Instant) : Readable t.text := by
  have field (width n : Nat) : ∀ c ∈ Text.Decimal.padded width n, IsReadable c :=
    fun c hc => Yaml.isReadable_of_isDigit (Text.Decimal.isDigit_of_mem_padded width n c hc)
  have marked {c : Char} (h : IsReadable c) (width n : Nat) :
      ∀ d ∈ c :: Text.Decimal.padded width n, IsReadable d :=
    List.forall_mem_cons.2 ⟨h, field width n⟩
  -- The year has a sign only outside of four digits, the fraction a point only if there is one.
  have year : ∀ c ∈ yearText t.date.year, IsReadable c := by
    rw [yearText]
    split
    · exact field 4 _
    · split
      · exact marked (by decide) 4 _
      · exact marked (by decide) 4 _
  have fraction : ∀ c ∈ fractionText t.nanosecond, IsReadable c := by
    rw [fractionText]
    split
    · exact List.forall_mem_nil _
    · split
      · exact marked (by decide) 3 _
      · split
        · exact marked (by decide) 6 _
        · exact marked (by decide) 9 _
  have zone : ∀ c ∈ ['Z'], IsReadable c := List.forall_mem_singleton.2 (by decide)
  rw [Readable, text, String.toList_ofList]
  simp only [List.forall_mem_append]
  exact ⟨⟨⟨⟨⟨⟨⟨year, marked (by decide) 2 _⟩, marked (by decide) 2 _⟩, marked (by decide) 2 _⟩,
    marked (by decide) 2 _⟩, marked (by decide) 2 _⟩, fraction⟩, zone⟩

@[simp] theorem Instant.encodeWhole_within (t : Instant) :
    t.encodeWhole.Within ShortKey Readable := by
  rw [encodeWhole, Json.within_str]
  exact t.wholeSecond.readable_text

@[simp] theorem ReconcileState.encode_within (s : ReconcileState) :
    s.encode.Within ShortKey Readable := by
  rw [encode, Json.within_str]
  cases s <;> decide

/-! ## What a group is written in -/

@[simp] theorem Table.encode_within_iff (t : Table String) :
    t.encode.Within ShortKey Readable ↔ t.Legible := by
  simp [encode, Legible]

@[simp] theorem NodeShare.encode_within_iff (s : NodeShare) :
    s.encode.Within ShortKey Readable ↔ AllReadable s.texts := by
  cases s <;> simp [encode, texts]

@[simp] theorem CustomResourceUpdate.encode_within_iff (u : CustomResourceUpdate) :
    u.encode.Within ShortKey Readable ↔ AllReadable u.texts := by
  simp +decide [encode, texts]

@[simp] theorem UpgradeStrategy.encode_within_iff (s : UpgradeStrategy) :
    s.encode.Within ShortKey Readable ↔ AllReadable s.texts := by
  simp +decide [encode, texts, RollingUpdate.encode]

@[simp] theorem Taint.encode_within_iff (t : Taint) :
    t.encode.Within ShortKey Readable ↔ AllReadable t.texts := by
  simp +decide [encode, texts]

@[simp] theorem UserDataStage.encode_within_iff (s : UserDataStage) :
    s.encode.Within ShortKey Readable ↔ AllReadable s.texts := by
  simp +decide [encode, texts]

@[simp] theorem VolumeMount.encode_within_iff (m : VolumeMount) :
    m.encode.Within ShortKey Readable ↔ AllReadable m.texts := by
  simp +decide [encode, texts]

@[simp] theorem Volume.encode_within_iff (v : Volume) :
    v.encode.Within ShortKey Readable ↔ AllReadable v.texts := by
  simp +decide [encode, texts]

@[simp] theorem WeightedType.encode_within_iff (t : WeightedType) :
    t.encode.Within ShortKey Readable ↔ AllReadable t.texts := by
  simp +decide [encode, texts]

@[simp] theorem MixedInstancesPolicy.encode_within_iff (p : MixedInstancesPolicy) :
    p.encode.Within ShortKey Readable ↔ AllReadable p.texts := by
  simp +decide [encode, texts]

@[simp] theorem GroupStatus.encode_within_iff (s : GroupStatus) :
    s.encode.Within ShortKey Readable ↔ AllReadable s.texts := by
  simp +decide [encode, texts]

theorem NodeConfiguration.encode_within_iff (c : NodeConfiguration) :
    c.encode.Within ShortKey Readable ↔ AllReadable c.texts ∧ c.labels.Legible := by
  simp +decide [encode, texts, and_comm, and_left_comm]

theorem Metadata.encode_within_iff (m : Metadata) :
    m.encode.Within ShortKey Readable ↔
      AllReadable m.texts ∧ (∀ t ∈ m.annotations, t.Legible) ∧ ∀ t ∈ m.labels, t.Legible := by
  simp +decide [encode, texts, and_comm, and_left_comm, and_assoc]

/-- **A group is written in what is legible if its own words are.** -/
theorem InstanceGroup.encode_within_iff (g : InstanceGroup) :
    g.encode.Within ShortKey Readable ↔ g.Legible := by
  simp +decide [encode, Legible, texts, tables, configuration, GroupSpec.encode,
    NodeScaling.encode, NodeConfiguration.encode_within_iff, Metadata.encode_within_iff,
    or_imp, forall_and, and_comm, and_left_comm, and_assoc]

end WorkerGroup
