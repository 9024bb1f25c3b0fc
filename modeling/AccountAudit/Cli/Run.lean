import AccountAudit.Cli.Help
import AccountAudit.Cli.Listing
import AccountAudit.Cli.Table
import AccountAudit.Log.Setup
import AccountAudit.Report.Markdown
import AccountAudit.Report.Records
import AccountAudit.Report.Sarif
import AccountAudit.Settings.Loading

/-!
# The command line program

What the program prints and writes for a command line, a file tree and the variables around it, and
the status that it ends with: 0 if all is well, 1 if a scan finds something that is too grave, and 2
if it cannot be done.
-/

namespace AccountAudit
namespace Cli

open Files

/-- What the program needs to know of time, as it is shown. -/
structure Clock where
  /-- The time of a report. -/
  now : String
  /-- The time that a scan took. -/
  duration : String
  deriving DecidableEq, Repr

/-- What a run of the program comes to. -/
structure Outcome where
  status : Nat
  stdout : String := ""
  stderr : String := ""
  /-- A file that is written. -/
  written : Option (Path × String) := none
  deriving DecidableEq, Repr

/-- The surroundings of a run. -/
structure World where
  tree : Tree
  surroundings : List (String × String)
  clock : Clock
  deriving Repr

/-- Lines, each with its end. -/
def linesText (lines : List String) : String :=
  "".intercalate (lines.map (· ++ "\n"))

/-- The line on an error. -/
def errorLine (message : String) : String :=
  Style.paint Style.red ("Error: " ++ message) ++ "\n"

/-! ## Settings -/

/-- The settings file that a command asks for. -/
def configPath (request : Request) : Option String :=
  match request.command with
  | some (.scan scan) =>
    match scan.config with
    | some path => if path.isEmpty then request.config else some path
    | none => request.config
  | _ => request.config

/-- What the command line gives for fields of the settings. -/
def givenSettings (request : Request) : List (String × Value) :=
  match request.command with
  | some (.scan scan) =>
    [("max_concurrency", (scan.maxConcurrency.map Value.int).getD .null),
      ("fail_on", (scan.failOn.map Value.text).getD .null),
      ("enabled_classes",
        if scan.enabled.isEmpty then .null else .list (scan.enabled.map .text))]
  | _ => []

/-- The settings in force for a request. -/
def settingsFor (world : World) (request : Request) : Except Settings.LoadingFailure Settings :=
  Settings.load world.tree world.surroundings ((configPath request).map Path.ofString)
    (givenSettings request)

/-! ## Scanning -/

/-- The output of a scan that is not a table. -/
def reportText (clock : Clock) (registry : Registry) (format : OutputFormat)
    (result : ScanResult) : Option String :=
  match format with
  | .table => none
  | .json => some (Report.records result.findings)
  | .sarif => some (Report.Sarif.render registry result.findings)
  | .report =>
    let counts : Report.Markdown.UnitCounts :=
      { scanned := result.scanned.length, failed := result.failed.length
        skipped := result.skipped.length }
    some (Report.Markdown.render registry clock.now counts (result.units.map Prod.snd)
      result.findings)

/-- What is said before a scan. -/
def scanningLine (paths : List String) : String :=
  "  Scanning " ++ Style.paint Style.cyan (", ".intercalate paths) ++ "…\n"

/-- What is said after a file has been written. -/
def writtenLine (path : String) : String :=
  "  Written to " ++ Style.paint Style.cyan path ++ "\n"

/-- The status of a scan: whether a finding is as grave as the settings ask for. -/
def scanStatus (settings : Settings) (result : ScanResult) : Nat :=
  if result.reaches settings.failOn then 1 else 0

/-- Brings the result of a scan to where it belongs. -/
def deliver (world : World) (quiet : Bool) (request : ScanRequest) (registry : Registry)
    (settings : Settings) (result : ScanResult) : Except AccessFailure Outcome :=
  let status := scanStatus settings result
  let before := if quiet then "" else scanningLine request.paths
  match reportText world.clock registry request.format result with
  | none =>
    .ok
      { status, stderr := before
        stdout := linesText (Table.lines quiet world.clock.duration result) }
  | some text =>
    match request.output with
    | none => .ok { status, stderr := before, stdout := text ++ "\n" }
    | some output =>
      if output.isEmpty then .ok { status, stderr := before, stdout := text ++ "\n" }
      else
        match world.tree.writeText (.ofString output) text with
        | .error failure => .error failure
        | .ok _ =>
          .ok
            { status, stderr := before ++ (if quiet then "" else writtenLine output)
              written := some (.ofString output, text) }

/-- Why it cannot be told whether something is at a path, if that is so. -/
def unknowable? (tree : Tree) (path : String) : Option AccessFailure :=
  match tree.find (.ofString path) with
  | .error (.tooLong path) => some (.tooLong path)
  | _ => none

/-- Scans, if all paths are there. -/
def runScan (world : World) (quiet : Bool) (request : ScanRequest) (settings : Settings) :
    Except AccessFailure Outcome :=
  match request.paths.findSome? (unknowable? world.tree) with
  | some failure => .error failure
  | none =>
    match request.paths.find? fun path => !world.tree.has (.ofString path) with
    | some missing =>
      .ok { status := 2, stderr := errorLine ("path '" ++ missing ++ "' does not exist.") }
    | none =>
      let registry := Registry.withBuiltin
      let result := Scan.run world.tree (Document.load world.tree) registry settings
        (request.paths.map Path.ofString)
      deliver world quiet request registry settings result

/-! ## Running -/

/-- Runs a command with its settings. -/
def runCommand (world : World) (quiet : Bool) (settings : Settings) :
    Command → Except Mishap Outcome
  | .config => .ok { status := 0, stdout := linesText (settingsLines settings) }
  | .detectors => .ok { status := 0, stdout := linesText (registryLines .withBuiltin) }
  | .scan request =>
    match runScan world quiet request settings with
    | .ok outcome => .ok outcome
    | .error failure => .error (.fault failure.fault)

/-- Loads the settings for a command, sets up the log, and runs the command. -/
def runWithSettings (world : World) (request : Request) (command : Command) :
    Except Mishap Outcome :=
  match settingsFor world request with
  | .error failure =>
    match failure.mishap with
    | .failure f => .ok { status := 2, stderr := errorLine f.message }
    | mishap => .error mishap
  | .ok settings =>
    let level := if request.quiet then "WARNING" else settings.logLevel
    match Log.setup settings.deployment.name level with
    | .error fault => .error (.fault fault)
    | .ok _ => runCommand world request.quiet settings command

/-- Does what a request asks for. -/
def runRequest (world : World) (request : Request) : Except Mishap Outcome :=
  if request.version then
    .ok { status := 0, stdout := Product.name ++ " " ++ Product.version ++ "\n" }
  else
    match request.command with
    | none => .ok { status := 0, stdout := linesText Topic.program.help }
    | some command => runWithSettings world request command

/-- Runs the program on a command line. -/
def run (world : World) (arguments : List String) : Except Mishap Outcome :=
  match readArguments arguments with
  | .error (.help topic) => .ok { status := 0, stdout := linesText topic.help }
  | .error (.misuse topic m) => .ok { status := 2, stderr := linesText (topic.complaint m) }
  | .ok request => runRequest world request

end Cli
end AccountAudit
