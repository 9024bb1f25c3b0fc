import AccountAudit.Cli.Command
import AccountAudit.Product

/-!
# Help

The texts on how the program and its commands are used.
-/

namespace AccountAudit
namespace Cli

/-- How the program is called. -/
def programUsage : List String :=
  ["usage: acctscan [-h] [--version] [--quiet] [--config CONFIG]",
    "                \x7bscan,detectors,config\x7d ..."]

/-- What the arguments of the program mean. -/
def programDetails : List String :=
  ["",
    "acctscan — structural vulnerability scanner for account-model programs",
    "",
    "positional arguments:",
    "  \x7bscan,detectors,config\x7d",
    "    scan                Scan IR documents",
    "    detectors           List registered detectors",
    "    config              Show effective configuration",
    "",
    "options:",
    "  -h, --help            show this help message and exit",
    "  --version             Print version and exit",
    "  --quiet, -q           Minimal output",
    "  --config CONFIG, -c CONFIG",
    "                        YAML configuration file"]

/-- How the scan command is called. -/
def scanUsage : List String :=
  ["usage: acctscan scan [-h] [--config SCAN_CONFIG]",
    "                     [--format \x7btable,json,sarif,report\x7d]",
    "                     [--fail-on \x7bcritical,high,medium,low,info,informational\x7d]",
    "                     [--max-concurrency MAX_CONCURRENCY] [--enable CLASS_ID]",
    "                     [--output OUTPUT]",
    "                     paths [paths ...]"]

/-- What the arguments of the scan command mean. -/
def scanDetails : List String :=
  ["",
    "positional arguments:",
    "  paths                 IR files (.json/.yaml) or directories",
    "",
    "options:",
    "  -h, --help            show this help message and exit",
    "  --config SCAN_CONFIG, -c SCAN_CONFIG",
    "                        YAML configuration file",
    "  --format \x7btable,json,sarif,report\x7d, -f \x7btable,json,sarif,report\x7d",
    "                        Output format (default: table)",
    "  --fail-on \x7bcritical,high,medium,low,info,informational\x7d",
    "                        Exit non-zero when a finding is at least this severe",
    "                        (default: from config, high)",
    "  --max-concurrency MAX_CONCURRENCY",
    "                        Units and detectors analyzed in parallel",
    "  --enable CLASS_ID     Only run these classes",
    "  --output OUTPUT, -o OUTPUT",
    "                        Write output to file instead of stdout"]

/-- What the arguments of a command that takes nothing mean. -/
def plainDetails : List String :=
  ["",
    "options:",
    "  -h, --help  show this help message and exit"]

/-- How a command that takes nothing is called. -/
def plainUsage (name : String) : List String :=
  ["usage: " ++ Product.name ++ " " ++ name ++ " [-h]"]

namespace Topic

/-- The name of a command together with the program's. -/
def name : Topic → String
  | program => Product.name
  | scan => Product.name ++ " scan"
  | detectors => Product.name ++ " detectors"
  | config => Product.name ++ " config"

/-- How something is called. -/
def usage : Topic → List String
  | program => programUsage
  | scan => scanUsage
  | detectors => plainUsage "detectors"
  | config => plainUsage "config"

/-- What the arguments mean. -/
def details : Topic → List String
  | program => programDetails
  | scan => scanDetails
  | detectors => plainDetails
  | config => plainDetails

/-- The whole help on something. -/
def help (topic : Topic) : List String :=
  topic.usage ++ topic.details

/-- What is said of a misuse. -/
def complaint (topic : Topic) (m : Misuse) : List String :=
  topic.usage ++ [topic.name ++ ": error: " ++ m.message]

end Topic

end Cli
end AccountAudit
