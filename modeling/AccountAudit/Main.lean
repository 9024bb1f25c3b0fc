import AccountAudit.Cli.Run
import Std.Time.DateTime

/-!
# The program

Gathers what a run of the program can see (the files that the command line names, the variables, the
time), runs it, and passes on what it prints and writes. All decisions are those of `Cli.run`.
-/

namespace AccountAudit
namespace Main

open Files

/-- Folders are read this many levels deep. -/
def depthLimit : Nat := 64

/-! ## Files -/

/-- The entry at a place of the file system. Of the files in folders only documents are read. -/
def readEntry : Nat → String → IO (Option Entry)
  | 0, _ => return none
  | depth + 1, place => do
    try
      let path ← IO.FS.realPath place
      if ← path.isDir then
        let mut entries := []
        for child in ← path.readDir do
          let inner := place ++ "/" ++ child.fileName
          if Document.hasDocumentEnding child.fileName || (← child.path.isDir) then
            if let some entry ← readEntry depth inner then
              entries := (child.fileName, entry) :: entries
        return some (.folder entries)
      else
        return some (.file (← IO.FS.readBinFile place).toList)
    catch _ => return none

/-- Steps from the root without `..`. -/
def plainSteps (steps : List String) : List String :=
  (steps.foldl (fun taken step => if step = ".." then taken.drop 1 else step :: taken) []).reverse

/-- Adds the folders on the way to a path, as far as they are there. -/
def addFolders (tree : Tree) (path : Path) : IO Tree := do
  let mut tree := tree
  for count in List.range path.names.length do
    let way := { path with names := path.names.take count }
    if ← (← IO.FS.realPath way.text).isDir then
      tree := { tree with root := tree.root.putFolder (plainSteps (tree.route way)) }
  return tree

/-- Adds what is at a path, folders with `depth` levels of their contents. -/
def addPath (depth : Nat) (tree : Tree) (path : Path) : IO Tree := do
  let tree ← addFolders tree path
  match ← readEntry depth path.text with
  | none => return tree
  | some entry => return { tree with root := tree.root.put (plainSteps (tree.route path)) entry }

/-- The files that a command line makes the program look at. -/
def gatherTree (arguments : List String) : IO Tree := do
  let here := (Path.ofString (← IO.currentDir).toString).names
  let mut tree : Tree := { root := (Entry.folder []).putFolder here, here }
  tree ← addPath 1 tree Settings.variableFile
  match Cli.readArguments arguments with
  | .error _ => return tree
  | .ok request =>
    if let some config := Cli.configPath request then
      tree ← addPath 1 tree (.ofString config)
    if let some (.scan scan) := request.command then
      let paths := scan.paths.map Path.ofString
      for path in paths do
        tree ← addPath depthLimit tree path
      for program in Document.programPaths tree (Document.discover tree paths) do
        tree ← addPath 1 tree program
      if let some output := scan.output then
        tree ← addFolders tree (.ofString output)
    return tree

/-! ## Variables and time -/

/-- The names of the variables that may matter. -/
def variableNames (tree : Tree) : List String :=
  let fields := Settings.fieldNames.map fun field => (Settings.variableName field).toUpper
  match tree.readText Settings.variableFile with
  | .ok text => fields ++ EnvFile.referencesFrom 0 text
  | .error _ => fields

/-- The variables of the surroundings. -/
def gatherVariables (names : List String) : IO (List (String × String)) :=
  names.filterMapM fun name => do
    return (← IO.getEnv name).map fun v => (name, v)

/-- A number of at least two digits. -/
def twoDigits (n : Int) : String :=
  if 0 ≤ n && n < 10 then "0" ++ toString n else toString n

/-- The time of a report. -/
def currentTime : IO String := do
  let now := Std.Time.PlainDateTime.ofWallTime
    (.ofSeconds (← Std.Time.Timestamp.now).toSecondsSinceUnixEpoch)
  let date := toString now.date.year.toInt ++ "-" ++ twoDigits now.date.month.val ++ "-" ++
    twoDigits now.date.day.val
  return date ++ " " ++ twoDigits now.time.hour.val ++ ":" ++ twoDigits now.time.minute.val ++
    " UTC"

/-- A time in seconds with one decimal. -/
def secondsText (milliseconds : Nat) : String :=
  toString (milliseconds / 1000) ++ "." ++ toString (milliseconds % 1000 / 100) ++ "s"

/-! ## Running -/

/-- Passes on the outcome of a run. -/
def passOn (outcome : Cli.Outcome) : IO UInt32 := do
  IO.eprint outcome.stderr
  if let some (path, text) := outcome.written then
    IO.FS.writeFile path.text text
  IO.print outcome.stdout
  return UInt32.ofNat outcome.status

/-- Runs the program on a command line. -/
def runProgram (arguments : List String) : IO UInt32 := do
  let start ← IO.monoMsNow
  let tree ← gatherTree arguments
  let surroundings ← gatherVariables (variableNames tree)
  let clock : Cli.Clock :=
    { now := ← currentTime, duration := secondsText ((← IO.monoMsNow) - start) }
  match Cli.run { tree, surroundings, clock } arguments with
  | .ok outcome => passOn outcome
  | .error mishap =>
    IO.eprintln mishap.asFault.text
    return 1

end Main
end AccountAudit

def main (arguments : List String) : IO UInt32 :=
  AccountAudit.Main.runProgram arguments
