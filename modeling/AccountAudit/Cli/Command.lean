import AccountAudit.Cli.Grammar
import AccountAudit.Number.Integer
import AccountAudit.Text.Basic

/-!
# Commands

What a user can ask for on the command line. Later options replace earlier ones, except for the
classes to be enabled, which add up.
-/

namespace AccountAudit
namespace Cli

/-- How the findings of a scan are written. -/
inductive OutputFormat where
  | table
  | json
  | sarif
  | report
  deriving DecidableEq, Repr

namespace OutputFormat

def all : List OutputFormat :=
  [table, json, sarif, report]

def name : OutputFormat → String
  | table => "table"
  | json => "json"
  | sarif => "sarif"
  | report => "report"

end OutputFormat

structure ScanRequest where
  paths : List String := []
  config : Option String := none
  format : OutputFormat := .table
  /-- A severity as it may be written on the command line. -/
  failOn : Option String := none
  maxConcurrency : Option Int := none
  enabled : List String := []
  output : Option String := none
  deriving DecidableEq, Repr

inductive Command where
  | scan (request : ScanRequest)
  | detectors
  | config
  deriving DecidableEq, Repr

structure Request where
  version : Bool := false
  quiet : Bool := false
  config : Option String := none
  command : Option Command := none
  deriving DecidableEq, Repr

/-- The commands that there is help on. -/
inductive Topic where
  | program
  | scan
  | detectors
  | config
  deriving DecidableEq, Repr

/-- Why a command line asks for nothing else. -/
inductive Stop where
  | help (topic : Topic)
  | misuse (topic : Topic) (m : Misuse)
  deriving DecidableEq, Repr

/-! ## Grammars -/

def helpOption : OptionSpec := { names := ["-h", "--help"] }
def configOption : OptionSpec := { names := ["--config", "-c"], takesValue := true }
def formatOption : OptionSpec := { names := ["--format", "-f"], takesValue := true }
def failOnOption : OptionSpec := { names := ["--fail-on"], takesValue := true }
def concurrencyOption : OptionSpec := { names := ["--max-concurrency"], takesValue := true }
def enableOption : OptionSpec := { names := ["--enable"], takesValue := true }
def outputOption : OptionSpec := { names := ["--output", "-o"], takesValue := true }
def versionOption : OptionSpec := { names := ["--version"] }
def quietOption : OptionSpec := { names := ["--quiet", "-q"] }

def programGrammar : Grammar :=
  { options := [helpOption, versionOption, quietOption, configOption], operands := .command }

def scanGrammar : Grammar :=
  { options :=
      [helpOption, configOption, formatOption, failOnOption, concurrencyOption, enableOption,
        outputOption]
    operands := .several }

/-- The grammar of a command that takes nothing. -/
def plainGrammar : Grammar :=
  { options := [helpOption], operands := .none }

/-! ## Values -/

/-- The severities as they may be written on the command line. -/
def severityChoices : List String :=
  ["critical", "high", "medium", "low", "info", "informational"]

/-- The integer that a text writes: digits of any script with single underscores between them, with
a sign, and with blanks around. -/
def integer? (s : String) : Option Int :=
  let cs := Text.trim s.toList
  let (negative, body) := match cs with
    | '-' :: rest => (true, rest)
    | '+' :: rest => (false, rest)
    | _ => (false, cs)
  let groups := Text.splitOn ['_'] body
  if groups.all fun group => !group.isEmpty && group.all Text.isDigit then
    match readDigits groups.flatten with
    | .ok n => some (if negative then -n else n)
    | .error _ => none
  else none

/-! ## Following events -/

/-- Follows the events of a reading, and stops at its misuse if no event stops before. -/
def follow {α : Type} (topic : Topic) (step : α → Event → Except Stop α) (start : α)
    (reading : Reading) : Except Stop α :=
  match reading.events.foldlM step start with
  | .error stop => .error stop
  | .ok result =>
    match reading.misuse with
    | some m => .error (.misuse topic m)
    | none => .ok result

/-- What an option of the scan command asks for. -/
def scanOption (request : ScanRequest) (key v : String) : Except Misuse ScanRequest :=
  if key = configOption.key then .ok { request with config := some v }
  else if key = formatOption.key then
    match OutputFormat.all.find? (·.name == v) with
    | some format => .ok { request with format }
    | none => .error (.notAmong formatOption.label v (OutputFormat.all.map OutputFormat.name))
  else if key = failOnOption.key then
    if v ∈ severityChoices then .ok { request with failOn := some v }
    else .error (.notAmong failOnOption.label v severityChoices)
  else if key = concurrencyOption.key then
    match integer? v with
    | some n => .ok { request with maxConcurrency := some n }
    | none => .error (.notInteger concurrencyOption.label v)
  else if key = enableOption.key then .ok { request with enabled := request.enabled ++ [v] }
  else .ok { request with output := some v }

/-- What an event of the scan command asks for. -/
def scanStep (request : ScanRequest) : Event → Except Stop ScanRequest
  | .flag _ => .error (.help .scan)
  | .value key v => (scanOption request key v).mapError (.misuse .scan)
  | .operands paths => .ok { request with paths }
  | .command _ _ => .ok request

/-- Reads the arguments of the scan command. -/
def readScan (arguments : List String) : Except Stop ScanRequest :=
  match follow .scan scanStep {} (scanGrammar.read arguments) with
  | .error (.misuse .scan (.unrecognized extra)) =>
    .error (.misuse .program (.unrecognized extra))
  | .error stop => .error stop
  | .ok request =>
    if request.paths.isEmpty then .error (.misuse .scan (.missingOperands "paths"))
    else .ok request

/-- Reads the arguments of a command that takes nothing. -/
def readPlain (topic : Topic) (command : Command) (arguments : List String) :
    Except Stop Command :=
  follow .program (fun _ _ => .error (.help topic)) command (plainGrammar.read arguments)

/-- The names of the commands. -/
def commandNames : List String :=
  ["scan", "detectors", "config"]

/-- Reads a command with its arguments. -/
def readCommand (name : String) (arguments : List String) : Except Stop Command :=
  match name with
  | "scan" => (readScan arguments).map .scan
  | "detectors" => readPlain .detectors .detectors arguments
  | "config" => readPlain .config .config arguments
  | _ => .error (.misuse .program (.notAmong "command" name commandNames))

/-- What an event of the whole command line asks for. -/
def programStep (request : Request) : Event → Except Stop Request
  | .flag key =>
    if key = helpOption.key then .error (.help .program)
    else if key = versionOption.key then .ok { request with version := true }
    else .ok { request with quiet := true }
  | .value _ v => .ok { request with config := some v }
  | .operands _ => .ok request
  | .command name arguments =>
    (readCommand name arguments).map fun command => { request with command := some command }

/-- Reads a command line. -/
def readArguments (arguments : List String) : Except Stop Request :=
  follow .program programStep {} (programGrammar.read arguments)

end Cli
end AccountAudit
