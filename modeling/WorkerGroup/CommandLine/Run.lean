/-
Runs: one offline pass over a manifest, from the command line to the printed report.

A run is a function of the words it is called with and of its surroundings: environment
variables, files and the time. The cluster is known from the command line and the
offerings from a file, so the cloud that is asked is one that was told both. What can go
wrong goes wrong in a fixed order: the command line, the settings, the manifest, the
offerings.

A locked group is no failure. Its starting state is not recorded, but everything a pass
derives can still be printed.
-/
import WorkerGroup.Collaborators
import WorkerGroup.CommandLine.Arguments
import WorkerGroup.CommandLine.Help
import WorkerGroup.Json.Printer
import WorkerGroup.Manifest
import WorkerGroup.Pass.Step
import WorkerGroup.Report
import WorkerGroup.Settings

set_option autoImplicit false

namespace WorkerGroup.CommandLine

/-! ## Failures -/

/-- Why a run that was asked for printed no report. -/
inductive RunFailure where
  | settings (cause : SettingFailure)
  | unreadableManifest (path : String)
  | manifest (path : String) (cause : ManifestFailure)
  | unreadableOfferings (path : String)
  | offerings (path : String)
  | pass (cause : PassFailure)
deriving DecidableEq, Repr

namespace RunFailure

/-- The wording of a failure. -/
def message : RunFailure → String
  | settings _ => "invalid provisioner configuration"
  | unreadableManifest path => "failed to read manifest: " ++ path
  | manifest path _ => "failed to load manifest: " ++ path
  | unreadableOfferings path => "failed to read offerings: " ++ path
  | offerings path => "invalid offerings JSON: " ++ path
  | pass cause => cause.message

/-- The wording of what was behind a failure, where the library knows it. -/
def cause? : RunFailure → Option String
  | settings cause => some cause.message
  | manifest _ cause => some cause.message
  | unreadableManifest _ | unreadableOfferings _ | offerings _ | pass _ => none

end RunFailure

/-! ## Surroundings -/

/-- What a run depends on besides the words it is called with. -/
structure Surroundings where
  /-- The environment variables. -/
  environment : String → Option String
  /-- The texts of the files that can be read. -/
  file? : String → Option String
  /-- The time, for a run that is not told one. -/
  now : Instant

/-- The group a run is about. -/
def loadManifest (s : Surroundings) (path : String) : Except RunFailure InstanceGroup :=
  match s.file? path with
  | none => .error (.unreadableManifest path)
  | some text => (Manifest.parse text).mapError (.manifest path)

/-- The offerings a run is given, none without a file. -/
def loadOfferings (s : Surroundings) : Option String → Except RunFailure (List Offering)
  | none => .ok []
  | some path =>
    match s.file? path with
    | none => .error (.unreadableOfferings path)
    | some text =>
      match Manifest.offerings? text with
      | none => .error (.offerings path)
      | some offerings => .ok offerings

/-! ## The pass of a run -/

/-- The snapshot of a run: a cluster with its name service, and the offerings. -/
def snapshot (cluster : ClusterInfo) (dnsIp : Option String) (offerings : List Offering) :
    DiscoveredState :=
  { cluster := some { cluster with dnsClusterIp := dnsIp }, offerings }

/-- Records the state a pass starts from at the gauge. A locked group is left as it is, and
that is no failure. -/
def recordInitialState (p : Pass) (gauge : Collector) : Except PassFailure (Pass × Collector) :=
  let reply := p.step .discoverTransition gauge.verdict
  let recorded := (reply.pass, reply.reports.foldl Collector.record gauge)
  match reply.result with
  | .ok _ => .ok recorded
  | .error failure => if failure.isLocked then .ok recorded else .error failure

/-- The pass of a run and the state gauge after it. The cloud and the name service answer
what the command line says. -/
def offlinePass (a : Arguments) (settings : Settings) (g : InstanceGroup)
    (offerings : List Offering) : Except PassFailure (Pass × Collector) := do
  let cloud : Cloud := { cluster := some (a.clusterInfo g), offerings }
  let names : NameService := { address := a.dnsIp }
  let gauge : Collector := {}
  let p ← Pass.start g settings gauge.verdict
  let cluster ← (cloud.describeCluster p.group.configuration.clusterName).mapError .cloud
  let dnsIp ← names.locate.mapError .cluster
  let offerings ← cloud.listOfferings.mapError .cloud
  recordInitialState (p.withSnapshot (snapshot cluster dnsIp offerings))
    (gauge.record (Pass.startReport g settings))

/-- What is printed of a pass: the report, and the state gauge if it was asked for. -/
def printed (a : Arguments) (t : Instant) (p : Pass) (gauge : Collector) : String :=
  let report := (Report.ofPass p t).encode
  (if a.pretty then report.indentedText else report.compactText) ++ "\n" ++
    (if a.metrics then gauge.render else "")

/-! ## Runs -/

/-- What comes of a run. -/
inductive Outcome where
  | printed (text : String)
  | misused (error : UsageError)
  | failed (failure : RunFailure)
deriving DecidableEq, Repr

/-- The code a run ends with. -/
def Outcome.exitCode : Outcome → UInt32
  | .printed _ => 0
  | .failed _ => 1
  | .misused _ => 2

/-- What a run prints once its arguments are known. -/
def resolve (a : Arguments) (s : Surroundings) : Except RunFailure String := do
  let settings ← (Settings.ofVariables s.environment).mapError .settings
  let g ← loadManifest s a.manifest
  let offerings ← loadOfferings s a.offerings
  let (p, gauge) ← (offlinePass a settings g offerings).mapError .pass
  pure (printed a (a.timestamp.getD s.now) p gauge)

/-- A run. -/
def run (words : List String) (s : Surroundings) : Outcome :=
  match Arguments.parse words s.environment with
  | .error .help => .printed helpText
  | .error .version => .printed versionText
  | .error (.usage e) => .misused e
  | .ok a =>
    match resolve a s with
    | .ok text => .printed text
    | .error failure => .failed failure

end WorkerGroup.CommandLine
