/-
Arguments: what a run is asked to do.

The items of a command line are taken in order. An item is taken once it is complete: a
path, or an option whose value is a word of its own, could still be followed by more,
so it is complete only when the next item has been looked at, and an item that is refused
right after it is reported first. An option or a switch may stand once.

Two of the arguments fall back to environment variables. What is missing after that is
the last thing that can be wrong.
-/
import WorkerGroup.Cluster
import WorkerGroup.CommandLine.Item
import WorkerGroup.InstanceGroup
import WorkerGroup.Instant.Text

set_option autoImplicit false

namespace WorkerGroup.CommandLine

/-! ## Arguments -/

/-- What a run is asked to do. -/
structure Arguments where
  /-- The path of the manifest. -/
  manifest : String
  endpoint : String
  certificateAuthority : String
  clusterVersion : String := ""
  dnsIp : Option String := none
  /-- The path of the offerings. -/
  offerings : Option String := none
  /-- When a launch configuration would be made, for its name. -/
  timestamp : Option Instant := none
  pretty : Bool := false
  metrics : Bool := false
deriving DecidableEq

/-- Why a command line asks for no run. -/
inductive Stop where
  | help
  | version
  | usage (error : UsageError)
deriving DecidableEq, Repr

/-- The cluster of a group, as far as the arguments describe it. -/
def Arguments.clusterInfo (a : Arguments) (g : InstanceGroup) : ClusterInfo :=
  { name := g.configuration.clusterName
    endpoint := a.endpoint
    certificateAuthority := a.certificateAuthority
    version := a.clusterVersion }

/-! ## Taking items -/

/-- What was given so far. -/
structure Draft where
  manifest : Option String := none
  endpoint : Option String := none
  certificateAuthority : Option String := none
  clusterVersion : Option String := none
  dnsIp : Option String := none
  offerings : Option String := none
  timestamp : Option Instant := none
  pretty : Option Unit := none
  metrics : Option Unit := none
deriving DecidableEq

namespace Draft

/-- What is given for the first time, read. -/
def once {α β : Type} (current : Option β) (read : α → Except UsageError β) (given : α) :
    Except Stop (Option β) :=
  match current with
  | some _ => .error (.usage .repeatedArgument)
  | none =>
    match read given with
    | .ok b => .ok (some b)
    | .error e => .error (.usage e)

/-- A path; an empty one is no value. -/
def path (s : String) : Except UsageError String :=
  if s = "" then .error .missingValue else .ok s

/-- An instant. -/
def instant (s : String) : Except UsageError Instant :=
  match Instant.read? s with
  | some t => .ok t
  | none => .error .invalidValue

/-- The draft with an option's value. -/
def give (d : Draft) (value : String) : ValueOption → Except Stop Draft
  | .endpoint => (once d.endpoint .ok value).map fun v => { d with endpoint := v }
  | .certificateAuthority =>
    (once d.certificateAuthority .ok value).map fun v => { d with certificateAuthority := v }
  | .clusterVersion =>
    (once d.clusterVersion .ok value).map fun v => { d with clusterVersion := v }
  | .dnsIp => (once d.dnsIp .ok value).map fun v => { d with dnsIp := v }
  | .offerings => (once d.offerings path value).map fun v => { d with offerings := v }
  | .timestamp => (once d.timestamp instant value).map fun v => { d with timestamp := v }

/-- The draft with a switch on. -/
def turnOn (d : Draft) : Switch → Except Stop Draft
  | .pretty => (once d.pretty .ok ()).map fun v => { d with pretty := v }
  | .metrics => (once d.metrics .ok ()).map fun v => { d with metrics := v }
  | .help => .error .help
  | .version => .error .version

/-- The draft with an item taken. -/
def take (d : Draft) : Item → Except Stop Draft
  | .manifest given => (once d.manifest path given).map fun v => { d with manifest := v }
  | .attached option value => d.give value option
  | .detached option (some value) => d.give value option
  | .detached _ none => .error (.usage .missingValue)
  | .switch switch => d.turnOn switch
  | .refused e => .error (.usage e)

/-- Whether an item is complete only when the next one has been looked at. -/
def isOpen : Item → Bool
  | .manifest _ | .detached _ _ => true
  | .attached _ _ | .switch _ | .refused _ => false

/-- The draft with items taken in order. -/
def takeAll (d : Draft) : List Item → Except Stop Draft
  | [] => .ok d
  | item :: rest =>
    match isOpen item, rest with
    | true, .refused e :: _ => .error (.usage e)
    | _, _ =>
      match d.take item with
      | .ok d => takeAll d rest
      | .error e => .error e

/-! ## Completing -/

/-- The variable of the endpoint. -/
def endpointVariable : String := "INSTANCEMGR_CLUSTER_ENDPOINT"

/-- The variable of the certificate authority. -/
def certificateAuthorityVariable : String := "INSTANCEMGR_CLUSTER_CA"

/-- The arguments a draft makes, with the variables it falls back to. -/
def complete (d : Draft) (environment : String → Option String) : Except Stop Arguments :=
  match d.manifest, d.endpoint.or (environment endpointVariable),
      d.certificateAuthority.or (environment certificateAuthorityVariable) with
  | some manifest, some endpoint, some certificateAuthority =>
    .ok { manifest, endpoint, certificateAuthority
          clusterVersion := d.clusterVersion.getD ""
          dnsIp := d.dnsIp
          offerings := d.offerings
          timestamp := d.timestamp
          pretty := d.pretty.isSome
          metrics := d.metrics.isSome }
  | _, _, _ => .error (.usage .missingArgument)

end Draft

/-- The arguments of a command line. -/
def Arguments.parse (words : List String) (environment : String → Option String) :
    Except Stop Arguments :=
  match Draft.takeAll {} (Item.ofWords words) with
  | .ok d => d.complete environment
  | .error e => .error e

end WorkerGroup.CommandLine
