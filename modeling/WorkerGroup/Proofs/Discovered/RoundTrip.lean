/-
A snapshot is read as it was written, and so are bootstrap parameters.

A snapshot may be handed to a later pass, so nothing of it may be lost. What was not found is
written as null and not left out, and nothing that stands for a record is null, so "nothing" and
"something without anything in it" stay apart; a pool keeps the keys it was declared with, those
without members included; numbers keep all of their 32 or 64 bits; and instants are written with
as many digits as they need (`Instant.read?_text`).

The taints of bootstrap parameters are those of a group, whose times are written in whole
seconds: that is the only thing such parameters can lose.
-/
import WorkerGroup.Bootstrap.Parameters
import WorkerGroup.Discovered
import WorkerGroup.Proofs.InstanceGroup.RoundTrip

set_option autoImplicit false

namespace WorkerGroup

open Schema
open Json (Typed)

section

variable {α : Type} {D : Dialect α} {see : Json → α} [Shows D see]

/-! ## What was found in the cloud -/

instance ScalingGroup.roundTrip :
    RoundTrip D see (ScalingGroup.decode? D) ScalingGroup.encode id where
  isValue _ := trivial
  read_see s := by
    simp [ScalingGroup.decode?, ScalingGroup.encode, List.lookup_cons]

instance LaunchConfiguration.roundTrip :
    RoundTrip D see (LaunchConfiguration.decode? D) LaunchConfiguration.encode id where
  isValue _ := trivial
  read_see c := by
    simp [LaunchConfiguration.decode?, LaunchConfiguration.encode, List.lookup_cons,
      Instant.read?_text]

instance ClusterInfo.roundTrip :
    RoundTrip D see (ClusterInfo.decode? D) ClusterInfo.encode id where
  isValue _ := trivial
  read_see c := by
    simp [ClusterInfo.decode?, ClusterInfo.encode, List.lookup_cons]

instance Offering.roundTrip : RoundTrip D see (Offering.decode? D) Offering.encode id where
  isValue _ := trivial
  read_see o := by
    simp [Offering.decode?, Offering.encode, List.lookup_cons]

/-! ## Instance pools -/

@[simp] theorem PoolKind.decode?_encode (k : PoolKind) :
    PoolKind.decode? D (see k.encode) = some k := by
  rw [PoolKind.decode?, PoolKind.encode, Shows.choice, Option.bind_some]
  cases k
  decide

instance PoolMember.roundTrip : RoundTrip D see (PoolMember.decode? D) PoolMember.encode id where
  isValue _ := trivial
  read_see m := by
    simp [PoolMember.decode?, PoolMember.encode, List.lookup_cons]

instance InstancePool.roundTrip :
    RoundTrip D see (InstancePool.decode? D) InstancePool.encode id where
  isValue _ := trivial
  read_see p := by
    have pools : D.map? (D.list? (PoolMember.decode? D))
        (see (.obj (p.pools.entries.map fun e => (e.1, Json.ofList PoolMember.encode e.2)))) =
          some (p.pools.entries.map fun e => (e.1, e.2.map id)) :=
      RoundTrip.map?_see p.pools.entries
    simp [InstancePool.decode?, InstancePool.encode, List.lookup_cons, pools, Table.ofList_entries]

/-- **A snapshot comes back**, through whatever dialect it is read. -/
theorem DiscoveredState.decode?_encode (d : DiscoveredState) :
    DiscoveredState.decode? D (see d.encode) = some d := by
  -- With the record open `simp` goes through the fields once, and not again for each of them.
  rw [DiscoveredState.decode?, DiscoveredState.encode, fullRecord?_obj (by decide),
    Option.bind_eq_bind, Option.bind_some]
  simp [List.lookup_cons]

end

/-! ## Bootstrap parameters -/

namespace Bootstrap

section

variable {α : Type} {D : Dialect α} {see : Json → α} [Shows D see]

theorem Payload.decode?_encode (p : Payload) : Payload.decode? D (see p.encode) = some p := by
  simp [Payload.decode?, Payload.encode, List.lookup_cons]

instance MountedVolume.roundTrip :
    RoundTrip D see (MountedVolume.decode? D) MountedVolume.encode id where
  isValue _ := trivial
  read_see m := by
    simp [MountedVolume.decode?, MountedVolume.encode, List.lookup_cons]

/-- Bootstrap parameters come back, the times of their taints in whole seconds. -/
theorem Parameters.decode?_encode (p : Parameters) :
    Parameters.decode? D (see p.encode) =
      some { p with nodeTaints := p.nodeTaints.map Taint.inWholeSeconds } := by
  rw [Parameters.decode?, Parameters.encode, fullRecord?_obj (by decide),
    Option.bind_eq_bind, Option.bind_some]
  simp [List.lookup_cons]

end

end Bootstrap

/-! ## Texts -/

@[simp] theorem ScalingGroup.encode_typed (s : ScalingGroup) : s.encode.Typed := by
  simp [encode]

@[simp] theorem ClusterInfo.encode_typed (c : ClusterInfo) : c.encode.Typed := by
  simp [encode]

@[simp] theorem InstancePool.encode_typed (p : InstancePool) : p.encode.Typed := by
  simp [encode, PoolKind.encode, PoolMember.encode]

theorem DiscoveredState.encode_typed (d : DiscoveredState) : d.encode.Typed := by
  simp [encode, LaunchConfiguration.encode, Offering.encode]

theorem Bootstrap.Payload.encode_typed (p : Payload) : p.encode.Typed := by
  simp [encode]

theorem Bootstrap.Parameters.encode_typed (p : Parameters) : p.encode.Typed := by
  simp [encode, MountedVolume.encode]

/-! ## From JSON -/

/-- A value is read from JSON as it was written, from the value it is written as and from its
text. -/
def ComesBack {β : Type} (decode? : Json → Option β) (encode : β → Json) (b : β) : Prop :=
  decode? (encode b) = some b ∧ (Json.parse? (encode b).compactText).bind decode? = some b

theorem comesBack_of_typed {β : Type} {decode? : Json → Option β} {encode : β → Json} {b : β}
    (typed : (encode b).Typed) (read : decode? (encode b) = some b) :
    ComesBack decode? encode b := by
  refine ⟨read, ?_⟩
  rw [Json.parse?_compactText typed, Option.bind_some, read]

/-- **Snapshots and payloads come back from JSON, and so do bootstrap parameters** with taints
of whole seconds. -/
theorem snapshots_and_parameters_come_back :
    (∀ d : DiscoveredState, ComesBack (DiscoveredState.decode? json) DiscoveredState.encode d) ∧
    (∀ p : Bootstrap.Payload,
      ComesBack (Bootstrap.Payload.decode? json) Bootstrap.Payload.encode p) ∧
    ∀ p : Bootstrap.Parameters, (∀ t ∈ p.nodeTaints, t.inWholeSeconds = t) →
      ComesBack (Bootstrap.Parameters.decode? json) Bootstrap.Parameters.encode p := by
  refine ⟨fun d => ?_, fun p => ?_, fun p whole => ?_⟩
  · exact comesBack_of_typed d.encode_typed
      (show DiscoveredState.decode? json (id d.encode) = some d from d.decode?_encode)
  · exact comesBack_of_typed p.encode_typed
      (show Bootstrap.Payload.decode? json (id p.encode) = some p from p.decode?_encode)
  · have same : p.nodeTaints.map Taint.inWholeSeconds = p.nodeTaints := by
      rw [List.map_congr_left whole, List.map_id']
    have read : Bootstrap.Parameters.decode? json (id p.encode) =
        some { p with nodeTaints := p.nodeTaints.map Taint.inWholeSeconds } := p.decode?_encode
    rw [same] at read
    exact comesBack_of_typed p.encode_typed read

/-- The parameters of nodes that carry a taint with a time. -/
theorem snapshots_and_parameters_come_back_tainted :
    ∃ t : Taint, t.timeAdded.map Instant.text = some "2024-02-29T23:59:59Z" ∧
      (∀ u ∈ [t], u.inWholeSeconds = u) ∧
      ComesBack (Bootstrap.Parameters.decode? json) Bootstrap.Parameters.encode
        { nodeTaints := [t], clusterIp := some "" } := by
  let time : Instant :=
    ⟨⟨2024, 2, 29⟩, 23, 59, 59, 0, by decide, by decide, by decide, by decide, by decide⟩
  have whole : ∀ u ∈ [({ key := "dedicated", timeAdded := some time } : Taint)],
      u.inWholeSeconds = u := by
    intro u hu
    rw [List.mem_singleton.1 hu]
    rfl
  exact ⟨_, by decide +kernel, whole, snapshots_and_parameters_come_back.2.2 _ whole⟩

end WorkerGroup
