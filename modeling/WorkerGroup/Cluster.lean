/-
Clusters: what nodes need to know to join one.
-/
import WorkerGroup.Json
import WorkerGroup.Schema.Dialect

set_option autoImplicit false

namespace WorkerGroup

/-- A cluster as nodes see it. The one without any text is a cluster not yet known. -/
structure ClusterInfo where
  name : String := ""
  endpoint : String := ""
  /-- The certificate authority bundle, in base64. -/
  certificateAuthority : String := ""
  version : String := ""
  /-- The address of the cluster's name service. -/
  dnsClusterIp : Option String := none
deriving DecidableEq, Inhabited

namespace ClusterInfo

/-- A cluster; every text is required. -/
def decode? {α : Type} (D : Schema.Dialect α) (v : α) : Option ClusterInfo := do
  let r ← D.fullRecord? ["name", "endpoint", "certificate_authority", "version",
    "dns_cluster_ip"] v
  let name ← r.required? "name" D.text?
  let endpoint ← r.required? "endpoint" D.text?
  let certificateAuthority ← r.required? "certificate_authority" D.text?
  let version ← r.required? "version" D.text?
  let dnsClusterIp ← r.optional? D "dns_cluster_ip" D.text?
  some { name, endpoint, certificateAuthority, version, dnsClusterIp }

/-- A cluster as JSON. -/
def encode (c : ClusterInfo) : Json :=
  .obj [("name", .str c.name), ("endpoint", .str c.endpoint),
    ("certificate_authority", .str c.certificateAuthority), ("version", .str c.version),
    ("dns_cluster_ip", Json.ofOption .str c.dnsClusterIp)]

end ClusterInfo

end WorkerGroup
