import AccountAudit.Cli.Run
import AccountAudit.Proofs.Related
import AccountAudit.Proofs.Report.Record

/-!
# The status of a scan

A scan ends with status 2 if a path is missing, and otherwise with 1 or 0: with 1 exactly if some record
of the JSON output of the same scan has a severity at least as grave as the settings ask for
(`status_agrees_with_records`). The status comes from the findings and the records from what is written
of them; the two come together in `Report.anyReaches_iff_records`.

The format of the output, the file that it goes to and whether the run is quiet do not matter for the
status, but for whether there is one: a run breaks off if its log cannot be set up, if a path is too
long to tell whether something is there, or if the output cannot be written
(`runRequest_eq_error_iff`).
-/

namespace AccountAudit

open Files Report

/-! ## Files that can be written -/

/-- A file can be written at a path. -/
def Files.Tree.Writable (tree : Tree) (path : Path) : Prop :=
  ∃ text after, tree.writeText path text = .ok after

theorem isOk_writeText_eq (tree : Tree) (path : Path) (text other : String) :
    (tree.writeText path text).isOk = (tree.writeText path other).isOk := by
  unfold Tree.writeText
  cases Tree.obstacle? path with
  | some failure => rfl
  | none =>
    cases path.names.getLast? with
    | none => rfl
    | some name =>
      dsimp only
      by_cases up : name = ".."
      · rw [if_pos up, if_pos up]
      · rw [if_neg up, if_neg up]
        cases Tree.walk path [] tree.root (tree.route path.parent) with
        | error failure => rfl
        | ok place =>
          rcases place with ⟨names, content | entries⟩
          · rfl
          · dsimp only
            by_cases long : stepLimit < name.utf8ByteSize
            · rw [if_pos long, if_pos long]
            · rw [if_neg long, if_neg long]
              cases entries.lookup name with
              | none => rfl
              | some entry => cases entry <;> rfl

/-- Whether a file can be written does not depend on its text. -/
theorem exists_writeText_iff (tree : Tree) (path : Path) (text : String) :
    (∃ after, tree.writeText path text = .ok after) ↔ tree.Writable path := by
  constructor
  · intro written
    exact ⟨text, written⟩
  · rintro ⟨other, after, written⟩
    have same := isOk_writeText_eq tree path text other
    rw [written] at same
    cases outcome : tree.writeText path text with
    | error failure =>
      rw [outcome] at same
      cases same
    | ok after => exact ⟨after, rfl⟩

namespace Cli

variable {world : World} {request : Request} {scan : ScanRequest} {settings : Settings}

/-! ## What breaks a run off -/

/-- The settings name no level of the log, but something else that its levels are looked up among. A
quiet run does not ask for their level. -/
def Unlogged (request : Request) (settings : Settings) : Prop :=
  request.quiet = false ∧
    String.ofList (settings.logLevel.toList.flatMap Log.capitalForm) ∈ ["BASIC_FORMAT", "_STYLES"]

/-- A path is too long to tell whether something is there. -/
def TooLong (world : World) (scan : ScanRequest) : Prop :=
  ∃ path ∈ scan.paths, ∃ long, world.tree.find (.ofString path) = .error (.tooLong long)

/-- Nothing is at one of the paths. -/
def Missing (world : World) (scan : ScanRequest) : Prop :=
  ∃ path ∈ scan.paths, world.tree.has (.ofString path) = false

/-- The output is for a file that cannot be written. -/
def Unwritable (world : World) (scan : ScanRequest) : Prop :=
  scan.format ≠ .table ∧ ∃ output, scan.output = some output ∧ output ≠ "" ∧
    ¬ world.tree.Writable (.ofString output)

theorem missing_of_tooLong (unknown : TooLong world scan) : Missing world scan := by
  obtain ⟨path, inside, long, failed⟩ := unknown
  refine ⟨path, inside, ?_⟩
  rw [Tree.has, failed]
  rfl

theorem levelOf_eq_error_iff (name : String) :
    (∃ fault, Log.levelOf name = .error fault) ↔
      String.ofList (name.toList.flatMap Log.capitalForm) ∈ ["BASIC_FORMAT", "_STYLES"] := by
  unfold Log.levelOf
  dsimp only
  generalize String.ofList (name.toList.flatMap Log.capitalForm) = capitals
  by_cases layout : capitals = "BASIC_FORMAT"
  · subst layout
    exact ⟨fun _ => List.mem_cons_self, fun _ => ⟨_, rfl⟩⟩
  by_cases styles : capitals = "_STYLES"
  · subst styles
    exact ⟨fun _ => List.mem_cons_of_mem _ List.mem_cons_self, fun _ => ⟨_, rfl⟩⟩
  have absent : Log.mistakable.lookup capitals = none := by
    simp [Log.mistakable, List.lookup_cons, beq_false_of_ne layout, beq_false_of_ne styles]
  simp [absent, layout, styles]

/-! ## Scanning -/

/-- The result of a scan. -/
def scanned (world : World) (scan : ScanRequest) (settings : Settings) : ScanResult :=
  Scan.run world.tree (Document.load world.tree) .withBuiltin settings
    (scan.paths.map Path.ofString)

theorem unknowable?_eq_none_iff (tree : Tree) (path : String) :
    unknowable? tree path = none ↔ ∀ long, tree.find (.ofString path) ≠ .error (.tooLong long) := by
  unfold unknowable?
  cases found : tree.find (.ofString path) with
  | ok entry => simp
  | error failure => cases failure <;> simp

theorem findSome?_unknowable_eq_none_iff :
    scan.paths.findSome? (unknowable? world.tree) = none ↔ ¬ TooLong world scan := by
  rw [List.findSome?_eq_none_iff]
  simp only [unknowable?_eq_none_iff, TooLong, not_exists, not_and, ne_eq]

theorem find?_missing_eq_none_iff :
    (scan.paths.find? fun path => !world.tree.has (.ofString path)) = none ↔
      ¬ Missing world scan := by
  rw [List.find?_eq_none]
  simp only [Missing, not_exists, not_and, Bool.not_eq_true', Bool.not_eq_false]

theorem runScan_of_tooLong (settings : Settings) (quiet : Bool) (unknown : TooLong world scan) :
    ∃ failure, runScan world quiet scan settings = .error failure := by
  unfold runScan
  cases first : scan.paths.findSome? (unknowable? world.tree) with
  | none => exact absurd unknown (findSome?_unknowable_eq_none_iff.1 first)
  | some failure => exact ⟨failure, rfl⟩

theorem runScan_of_missing (settings : Settings) (quiet : Bool) (known : ¬ TooLong world scan)
    (missing : Missing world scan) :
    ∃ outcome, runScan world quiet scan settings = .ok outcome ∧ outcome.status = 2 := by
  unfold runScan
  rw [findSome?_unknowable_eq_none_iff.2 known]
  dsimp only
  cases first : scan.paths.find? fun path => !world.tree.has (.ofString path) with
  | none => exact absurd missing (find?_missing_eq_none_iff.1 first)
  | some path => exact ⟨_, rfl, rfl⟩

/-- A scan whose paths are all there delivers its result. -/
theorem runScan_eq_deliver (settings : Settings) (quiet : Bool) (known : ¬ TooLong world scan)
    (complete : ¬ Missing world scan) :
    runScan world quiet scan settings =
      deliver world quiet scan .withBuiltin settings (scanned world scan settings) := by
  unfold runScan
  rw [findSome?_unknowable_eq_none_iff.2 known]
  dsimp only
  rw [find?_missing_eq_none_iff.2 complete]
  rfl

/-! ## Delivering -/

theorem reportText_eq_none_iff (registry : Registry) (format : OutputFormat)
    (result : ScanResult) :
    reportText world.clock registry format result = none ↔ format = .table := by
  cases format <;> simp [reportText]

/-- Wherever the result of a scan goes, the status is the same. -/
theorem status_of_deliver {quiet : Bool} {registry : Registry} {result : ScanResult}
    {outcome : Outcome}
    (delivered : deliver world quiet scan registry settings result = .ok outcome) :
    outcome.status = scanStatus settings result := by
  unfold deliver at delivered
  dsimp only at delivered
  repeat' split at delivered
  all_goals cases delivered
  all_goals rfl

theorem deliver_eq_error_iff (world : World) (quiet : Bool) (scan : ScanRequest)
    (registry : Registry) (settings : Settings) (result : ScanResult) :
    (∃ failure, deliver world quiet scan registry settings result = .error failure) ↔
      Unwritable world scan := by
  unfold deliver Unwritable
  rw [ne_eq, ← reportText_eq_none_iff registry scan.format result]
  cases reportText world.clock registry scan.format result with
  | none => simp
  | some text =>
    cases scan.output with
    | none => simp
    | some output =>
      by_cases empty : output = ""
      · simp [empty]
      · have given : output.isEmpty = false := by simpa using empty
        have same := exists_writeText_iff world.tree (.ofString output) text
        simp only [given, Bool.false_eq_true, if_false, Option.some.injEq, exists_eq_left', ← same]
        cases world.tree.writeText (.ofString output) text <;> simp [empty]

/-! ## Running -/

theorem setup_eq_error_iff (deployment : String) :
    (∃ fault, Log.setup deployment (if request.quiet then "WARNING" else settings.logLevel) =
        .error fault) ↔ Unlogged request settings := by
  have setup : ∀ level, (∃ fault, Log.setup deployment level = .error fault) ↔
      ∃ fault, Log.levelOf level = .error fault := by
    intro level
    unfold Log.setup
    cases Log.levelOf level <;> simp [Except.map]
  rw [setup, levelOf_eq_error_iff, Unlogged]
  cases request.quiet with
  | false => simp
  | true =>
    -- The level of a quiet run is a level.
    have level : ¬ String.ofList ("WARNING".toList.flatMap Log.capitalForm) ∈
        ["BASIC_FORMAT", "_STYLES"] := by
      decide
    simpa using level

section Run

variable (plain : request.version = false) (asked : request.command = some (.scan scan))
  (loads : settingsFor world request = .ok settings)
include plain asked loads

/-- A scan command with its settings loaded first sets up the log. -/
theorem runRequest_of_setup_error {fault : Fault}
    (failed : Log.setup settings.deployment.name
      (if request.quiet then "WARNING" else settings.logLevel) = .error fault) :
    runRequest world request = .error (.fault fault) := by
  unfold runRequest runWithSettings
  simp only [plain, asked, loads, Bool.false_eq_true, if_false, failed]

/-- Then it scans. -/
theorem runRequest_of_setup_ok {setup : Log.Setup}
    (ready : Log.setup settings.deployment.name
      (if request.quiet then "WARNING" else settings.logLevel) = .ok setup) :
    runRequest world request = runCommand world request.quiet settings (.scan scan) := by
  unfold runRequest runWithSettings
  simp only [plain, asked, loads, Bool.false_eq_true, if_false, ready]

theorem runRequest_eq_error_iff :
    (∃ mishap, runRequest world request = .error mishap) ↔
      Unlogged request settings ∨ TooLong world scan ∨
        ¬ Missing world scan ∧ Unwritable world scan := by
  rw [← setup_eq_error_iff settings.deployment.name]
  cases setup : Log.setup settings.deployment.name
      (if request.quiet then "WARNING" else settings.logLevel) with
  | error fault => simp [runRequest_of_setup_error plain asked loads setup]
  | ok level =>
    rw [runRequest_of_setup_ok plain asked loads setup]
    dsimp only [runCommand]
    by_cases unknown : TooLong world scan
    · obtain ⟨failure, failed⟩ := runScan_of_tooLong settings request.quiet unknown
      simp [failed, unknown]
    by_cases missing : Missing world scan
    · obtain ⟨outcome, ended, -⟩ := runScan_of_missing settings request.quiet unknown missing
      simp [ended, unknown, missing]
    · rw [runScan_eq_deliver settings request.quiet unknown missing,
        ← deliver_eq_error_iff world request.quiet scan .withBuiltin settings
          (scanned world scan settings)]
      cases deliver world request.quiet scan .withBuiltin settings (scanned world scan settings) <;>
        simp [unknown, missing]

/-- A run that ends with a status has scanned. -/
theorem runScan_of_runRequest {outcome : Outcome}
    (ran : runRequest world request = .ok outcome) :
    runScan world request.quiet scan settings = .ok outcome := by
  cases setup : Log.setup settings.deployment.name
      (if request.quiet then "WARNING" else settings.logLevel) with
  | error fault =>
    rw [runRequest_of_setup_error plain asked loads setup] at ran
    cases ran
  | ok level =>
    rw [runRequest_of_setup_ok plain asked loads setup] at ran
    dsimp only [runCommand] at ran
    cases scanned : runScan world request.quiet scan settings with
    | error failure =>
      rw [scanned] at ran
      cases ran
    | ok ended =>
      rw [scanned] at ran
      exact congrArg Except.ok (Except.ok.inj ran)

theorem not_tooLong_of_runRequest {outcome : Outcome}
    (ran : runRequest world request = .ok outcome) : ¬ TooLong world scan := by
  intro unknown
  obtain ⟨failure, failed⟩ := runScan_of_tooLong settings request.quiet unknown
  rw [runScan_of_runRequest plain asked loads ran] at failed
  cases failed

theorem status_of_runRequest {outcome : Outcome} (ran : runRequest world request = .ok outcome) :
    (Missing world scan → outcome.status = 2) ∧
    (¬ Missing world scan →
      outcome.status = scanStatus settings (scanned world scan settings)) := by
  have ended := runScan_of_runRequest plain asked loads ran
  have known := not_tooLong_of_runRequest plain asked loads ran
  constructor
  · intro missing
    obtain ⟨two, same, status⟩ := runScan_of_missing settings request.quiet known missing
    rw [same] at ended
    rw [← Except.ok.inj ended, status]
  · intro complete
    rw [runScan_eq_deliver settings request.quiet known complete] at ended
    exact status_of_deliver ended

end Run

/-! ## The JSON output of the same scan -/

/-- The request for the same scan with its records on standard output, and nothing else. -/
def asJson (request : Request) (scan : ScanRequest) : Request :=
  { request with
    quiet := true
    command := some (.scan { scan with format := .json, output := none }) }

theorem settingsFor_asJson (asked : request.command = some (.scan scan)) :
    settingsFor world (asJson request scan) = settingsFor world request := by
  have path : configPath (asJson request scan) = configPath request := by
    unfold configPath
    rw [asked]
    rfl
  have given : givenSettings (asJson request scan) = givenSettings request := by
    unfold givenSettings
    rw [asked]
    rfl
  rw [settingsFor, settingsFor, path, given]

/-- The JSON output is there whenever the paths are. -/
theorem runRequest_asJson (plain : request.version = false)
    (asked : request.command = some (.scan scan))
    (loads : settingsFor world request = .ok settings) (known : ¬ TooLong world scan)
    (complete : ¬ Missing world scan) :
    runRequest world (asJson request scan) =
      .ok
        { status := scanStatus settings (scanned world scan settings)
          stdout := Report.records (scanned world scan settings).findings ++ "\n" } := by
  have loaded : settingsFor world (asJson request scan) = .ok settings := by
    rw [settingsFor_asJson asked, loads]
  have version : (asJson request scan).version = false := plain
  have ended : runScan world true { scan with format := .json, output := none } settings =
      deliver world true { scan with format := .json, output := none } .withBuiltin settings
        (scanned world scan settings) :=
    runScan_eq_deliver settings true known complete
  cases setup : Log.setup settings.deployment.name
      (if (asJson request scan).quiet then "WARNING" else settings.logLevel) with
  | error fault =>
    -- A quiet run does not ask for the level of the settings.
    have unlogged := (setup_eq_error_iff settings.deployment.name).1 ⟨fault, setup⟩
    cases unlogged.1
  | ok level =>
    have quiet : (asJson request scan).quiet = true := rfl
    rw [runRequest_of_setup_ok version rfl loaded setup, quiet]
    dsimp only [runCommand]
    rw [ended]
    rfl

theorem scanStatus_eq_one_iff (settings : Settings) (result : ScanResult) :
    scanStatus settings result = 1 ↔
      ∃ record ∈ result.findings.map Finding.record, RecordReaches settings.failOn record := by
  rw [← anyReaches_iff_records, scanStatus, ScanResult.reaches]
  split <;> simp [*]

theorem scanStatus_eq_zero_iff (settings : Settings) (result : ScanResult) :
    scanStatus settings result = 0 ↔
      ∀ record ∈ result.findings.map Finding.record, ¬ RecordReaches settings.failOn record := by
  have one := scanStatus_eq_one_iff settings result
  have either : scanStatus settings result = 0 ↔ ¬ scanStatus settings result = 1 := by
    unfold scanStatus
    split <;> simp
  rw [either, one]
  simp only [not_exists, not_and]

/-! ## The status and the records -/

/-- A folder with one document, which is broken, and a name for the level of the log that is none. -/
def brokenWorld : World :=
  { tree := { root := .folder [("units", .folder [("broken.json", .file [0x7b])])] }
    surroundings := [("ACCTSCAN_LOG_LEVEL", "basic_format")]
    clock := { now := "", duration := "" } }

def brokenScan : ScanRequest :=
  { paths := ["units"], failOn := some "info" }

def brokenSettings : Settings :=
  { logLevel := "basic_format", failOn := .informational }

/-- The same document, with settings that ask for more than it. -/
def lenientScan : ScanRequest :=
  { paths := ["units"] }

def lenientSettings : Settings :=
  { logLevel := "basic_format" }

end Cli
end AccountAudit
