/-
What the command line prints about itself.
-/
import WorkerGroup.CommandLine.Item

set_option autoImplicit false

namespace WorkerGroup.CommandLine

/-- The name the program is called by. -/
def programName : String := "instancemgr-resolve"

/-- The name and the version. -/
def versionText : String := programName ++ " 0.1.0\n"

/-- The line that shows how the program is called. -/
def usageText : String :=
  "Usage: " ++ programName ++
    " [OPTIONS] --endpoint <ENDPOINT> --ca <CERTIFICATE_AUTHORITY> <MANIFEST>\n"

/-- What the program is for, and its arguments. -/
def helpText : String :=
  "Resolve an instance group manifest into the names, tags and bootstrap parameters the EKS " ++
  "provisioner would use\n\n" ++
  usageText ++
  "\nArguments:\n" ++
  "  <MANIFEST>  Instance group manifest (YAML or JSON)\n" ++
  "\nOptions:\n" ++
  "      --endpoint <ENDPOINT>                EKS API server endpoint " ++
    "[env: INSTANCEMGR_CLUSTER_ENDPOINT=]\n" ++
  "      --ca <CERTIFICATE_AUTHORITY>         Base64 cluster CA bundle " ++
    "[env: INSTANCEMGR_CLUSTER_CA=]\n" ++
  "      --cluster-version <CLUSTER_VERSION>  Kubernetes version of the cluster " ++
    "[default: ]\n" ++
  "      --dns-ip <DNS_IP>                    Cluster IP of the cluster DNS service\n" ++
  "      --offerings <PATH>                   JSON array of instance type offerings\n" ++
  "      --at <RFC3339>                       Timestamp for the launch configuration name " ++
    "(RFC 3339); defaults to now\n" ++
  "      --pretty                             Pretty-print the report\n" ++
  "      --metrics                            Also print the state gauge in Prometheus " ++
    "text format\n" ++
  "  -h, --help                               Print help\n" ++
  "  -V, --version                            Print version\n"

/-- The wording of what is wrong with a command line. -/
def UsageError.message : UsageError → String
  | missingArgument => "the following required arguments were not provided"
  | unknownArgument => "unexpected argument found"
  | repeatedArgument => "an argument cannot be used multiple times"
  | missingValue => "a value is required but none was supplied"
  | invalidValue => "invalid value for --at"
  | unexpectedValue => "unexpected value for a switch"

end WorkerGroup.CommandLine
