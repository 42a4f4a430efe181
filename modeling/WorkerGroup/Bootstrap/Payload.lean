/-
The bootstrap payload: user data, sorted by the stage it is for.

Pieces of user data are tagged with a stage, in whatever case, and a piece with another
tag is passed over. Commands of one stage stay separate and in order. Node
configuration documents are joined into one text of several documents, a separator line
between them; a document that lacks a line feed at its end gets one before the
separator, and there is no separator before the first document that has any text.

A piece may be given as base64. A piece that is the base64 of some text stands for that
text; any other piece stands for itself, blanks around it included.
-/
import WorkerGroup.InstanceGroup
import WorkerGroup.Json
import WorkerGroup.OsFamily.Resolution
import WorkerGroup.Schema.Dialect
import WorkerGroup.Text.Base64
import WorkerGroup.Text.Blank

set_option autoImplicit false

namespace WorkerGroup.Bootstrap

/-- The text a piece of user data stands for. -/
def decodeData (data : String) : String :=
  (Text.Base64.decodeText? (Text.trim data)).getD data

/-- User data by stage. -/
structure Payload where
  preBootstrap : List String := []
  postBootstrap : List String := []
  nodeConfigYaml : String := ""
deriving DecidableEq, Inhabited

namespace Payload

/-- The line between two documents. -/
def separator : String := "---\n"

/-- A text of documents with one more document at its end. -/
def appendDocument (documents document : String) : String :=
  if documents = "" then document
  else if documents.toList.getLast? = some '\n' then documents ++ separator ++ document
  else documents ++ "\n" ++ separator ++ document

/-- The payload with one more piece of user data. -/
def add (p : Payload) (s : UserDataStage) : Payload :=
  if s.isStage UserDataStage.preBootstrap then
    { p with preBootstrap := p.preBootstrap ++ [decodeData s.data] }
  else if s.isStage UserDataStage.postBootstrap then
    { p with postBootstrap := p.postBootstrap ++ [decodeData s.data] }
  else if s.isStage UserDataStage.nodeConfig then
    { p with nodeConfigYaml := appendDocument p.nodeConfigYaml (decodeData s.data) }
  else p

/-- The payload of a list of pieces, in their order. -/
def ofStages (stages : List UserDataStage) : Payload :=
  stages.foldl add {}

/-! ## As data -/

/-- A payload; every field is required. -/
def decode? {α : Type} (D : Schema.Dialect α) (v : α) : Option Payload := do
  let r ← D.fullRecord? ["pre_bootstrap", "post_bootstrap", "node_config_yaml"] v
  let preBootstrap ← r.required? "pre_bootstrap" (D.list? D.text?)
  let postBootstrap ← r.required? "post_bootstrap" (D.list? D.text?)
  let nodeConfigYaml ← r.required? "node_config_yaml" D.text?
  some { preBootstrap, postBootstrap, nodeConfigYaml }

/-- A payload as JSON. -/
def encode (p : Payload) : Json :=
  .obj [("pre_bootstrap", Json.ofList .str p.preBootstrap),
    ("post_bootstrap", Json.ofList .str p.postBootstrap),
    ("node_config_yaml", .str p.nodeConfigYaml)]

end Payload

end WorkerGroup.Bootstrap
