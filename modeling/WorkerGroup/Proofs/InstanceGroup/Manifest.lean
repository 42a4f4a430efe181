/-
A manifest may be the JSON of a group.

Manifests are read as YAML, whatever they are written in. For a group that was written as JSON
that makes no difference (`Manifest.parse_compactText`): the text is the document of its value,
through which a schema sees what JSON would see, and so the group comes back. A text that spells
a number, a truth value or nothing is in quotes and stays a text, and one that is empty stays
there.

What can be said is limited by the characters: line breaks that YAML knows and JSON does not, and
characters it does not permit, are written as they are. So the group has to be `Legible`: its texts
have to be readable ones, and the keys of its maps have to be short as well.
-/
import WorkerGroup.Manifest
import WorkerGroup.Proofs.InstanceGroup.Texts
import WorkerGroup.Proofs.Yaml.JsonText

set_option autoImplicit false

namespace WorkerGroup

open Schema

namespace Manifest

/-- The group a text of JSON is, in whole seconds. -/
theorem group?_compactText {g : InstanceGroup} (legible : g.Legible) :
    group? g.encode.compactText = some g.inWholeSeconds := by
  have document : Yaml.parse? g.encode.compactText = some ⟨g.encode.vertex, []⟩ :=
    Yaml.parse?_compactText (g.encode_within_iff.2 legible)
  rw [group?, document]
  exact InstanceGroup.decode?_encode g

/-- **A group is read from the JSON it is written as**, or refused for its kind or its name. -/
theorem parse_compactText {g : InstanceGroup} (whole : g.inWholeSeconds = g)
    (legible : g.Legible) :
    parse g.encode.compactText =
      if g.kind ≠ "InstanceGroup" then .error (.wrongKind g.kind)
      else if g.name = "" then .error .nameless
      else .ok g := by
  rw [parse, group?_compactText legible, whole]
  rfl

/-- A group of texts that spell other things. -/
def misleading : InstanceGroup :=
  { metadata :=
      { name := some "null"
        uid := some ""
        annotations := some ⟨[("", "~"), ("- a: [b]", "\"#\t\n"), ("true", "1e3")], by decide⟩ }
    spec :=
      { provisioner := "0x10"
        locked := some false
        strategy := some { kind := "no", rollingUpdate := some ⟨some (.text "25")⟩ }
        eks := { configuration := { spotPrice := some "1.50", volumes := [{ name := "---" }] } } } }

theorem parse_compactText_misleading :
    misleading.inWholeSeconds = misleading ∧ misleading.Legible ∧
      parse misleading.encode.compactText = .ok misleading := by
  have whole : misleading.inWholeSeconds = misleading := rfl
  have legible : misleading.Legible := by decide +kernel
  refine ⟨whole, legible, ?_⟩
  rw [parse_compactText whole legible]
  rfl

end Manifest

end WorkerGroup
