/-
Manifests: instance groups as an operator writes them.

A manifest is one YAML document, and JSON is YAML, so both are read the same way. It has
to be an instance group by its shape, by the kind it names, and by having a name; the
first of these that fails is what is wrong with it. Two things are not looked at: how often
aliases are repeated (see `Yaml.Graph`), and the members of the metadata that `Metadata` leaves
out.
-/
import WorkerGroup.InstanceGroup.Decode
import WorkerGroup.Schema.Json
import WorkerGroup.Schema.Yaml
import WorkerGroup.Json.Parser
import WorkerGroup.Offering
import WorkerGroup.Text.Quoted
import WorkerGroup.Yaml.Document

set_option autoImplicit false

namespace WorkerGroup

/-- What is wrong with a manifest. -/
inductive ManifestFailure where
  /-- The text is no document, or the document is no instance group. -/
  | malformed
  /-- The document is of another kind. -/
  | wrongKind (kind : String)
  /-- The group has no name. -/
  | nameless
deriving DecidableEq, Repr

/-- The wording of what is wrong with a manifest. -/
def ManifestFailure.message : ManifestFailure → String
  | malformed => "invalid instance group manifest"
  | wrongKind kind =>
    "expected kind " ++ InstanceGroup.expectedKind ++ ", got " ++ Text.quoted kind
  | nameless => "instance group manifest has no metadata.name"

namespace Manifest

/-- The group a document is, as far as its shape goes. -/
def group? (text : String) : Option InstanceGroup :=
  (Yaml.parse? text).bind fun g => InstanceGroup.decode? (Schema.yaml g) g.root

/-- The group a manifest describes. -/
def parse (text : String) : Except ManifestFailure InstanceGroup :=
  match group? text with
  | none => .error .malformed
  | some g =>
    if g.kind ≠ InstanceGroup.expectedKind then .error (.wrongKind g.kind)
    else if g.name = "" then .error .nameless
    else .ok g

/-- The offerings a file lists: a JSON array of them. -/
def offerings? (text : String) : Option (List Offering) :=
  (Json.parse? text).bind (Schema.json.list? (Offering.decode? Schema.json))

end Manifest

end WorkerGroup
