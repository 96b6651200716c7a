import IgnoreRules.Cli.Args
import IgnoreRules.Manager.Report

/-!
# Running a command

A command runs against a fresh manager of the file tree (cli.py:19–72 and 140–160), rooted at
`--root` taken from the working directory and configured from the defaults with the global flags.
Each command gives an exit status, the lines it prints and the lines it reports (comment lines
starting with `#`).

- `check` prints each ignored path (with `-v`, `file:line:pattern` and a tab before it; with
  `-n` also the paths no pattern decides, as `::`); the status is 0 when some path is ignored,
  1 otherwise. A path names a directory when `--dir` is given or the tree says so.
- `ls` prints the files that are not ignored, relative to the root; a file outside the root
  stops it with an error report and status 2.
- `lint` prints the diagnostics and reports how many rule files, errors and warnings there are;
  the status is 1 when there is an error.

Before the command runs, the log file named by `--log-file` is opened for appending: its
directory is made with its parents, and the file is created empty when it is missing.

- `Cli.openLog`: the file tree once the log file is open.
- `Cli.runWith`: the outcome of an invocation and the next free rule set version; `Cli.run`
  knows only the home directory `HOME` of the environment.
-/

namespace IgnoreRules

namespace Cli

/-- What a command gives: its exit status, printed lines and reported lines. -/
structure Outcome where
  exitCode : Nat
  stdout : List String
  stderr : List String
  deriving DecidableEq, Repr

/-- Why the log file of a command line could not be opened. -/
inductive LogFileError where
  /-- The log file names a directory. -/
  | isDirectory (path : String)
  /-- A file stands where the log file's directory should be. -/
  | fileExists (path : String)
  /-- A file stands above the log file's directory. -/
  | notDirectory (path : String)
  deriving DecidableEq, Repr

/-- The message of a log file error, with the path as the system reports it. -/
def LogFileError.message : LogFileError → String
  | .isDirectory p => "[Errno 21] Is a directory: " ++ Text.quote p
  | .fileExists p => "[Errno 17] File exists: " ++ Text.quote p
  | .notDirectory p => "[Errno 20] Not a directory: " ++ Text.quote p

/-- Opens the log file `logFile` (none or empty for no log file), read from the working
directory `cwd`, as appending does. Its directory is made first: a file in its place, or above it
when it is missing, is an error naming the directory as written. Then a directory in the log
file's place is an error naming its absolute path; a missing log file is created empty, and an
existing one is kept. -/
def openLog (cwd : PosixPath) (logFile : Option String) (disk : FileTree) :
    Except LogFileError FileTree :=
  match logFile with
  | none => pure disk
  | some f =>
    if f.isEmpty then pure disk
    else
      let path := cwd.resolveFrom f
      let dir := path.parent
      let written := (PosixPath.ofString f).parent.toString
      if disk.isFile dir then throw (.fileExists written)
      else if !disk.isDir dir && dir.parents.any disk.isFile then throw (.notDirectory written)
      else if disk.isDir path then throw (.isDirectory path.toString)
      else if disk.isFile path then pure disk
      else pure (disk.write path [])

/-- The configuration of a command line: the `IGNORE_ENGINE_*` variables of the environment,
with the global flags winning. -/
def configOf (env : List (String × String)) (o : Options) : Config :=
  let flags : Settings := {
    ignoreCase := if o.ignoreCase then some (.given true) else none
    useDefaults := if o.noDefaults then some (.given false) else none }
  match Config.fromEnv env flags with
  | .ok c => c
  | .error _ => Config.standard

/-- The home directory of the environment, `HOME`, as the current user's. -/
def homesOf (env : List (String × String)) : List (String × String) :=
  match env.lookup "HOME" with
  | some home => [("", home)]
  | none => []

/-- The manager a command runs against, knowing the home directories `homes`. -/
def managerOf (homes env : List (String × String)) (o : Options) (cwd : PosixPath)
    (disk : FileTree) (nextVersion : Nat) : Manager :=
  let config := configOf env o
  let root := cwd.resolveFrom o.root
  Manager.createWith homes root config ⟨config.ruleFilenames, .tree root config.maxRuleFileSize⟩
    disk true nextVersion

/-- The line `check` prints for a path, if any. -/
def checkLine (path : String) (v : Verdict) (verbose nonMatching : Bool) : Option String :=
  if !v.ignored && !nonMatching then none
  else if !verbose then (if v.ignored then some path else none)
  else match v.pattern with
    | none => some ("::\t" ++ path)
    | some p =>
      some ((p.sourceFile.getD "None") ++ ":" ++ toString p.lineNumber ++ ":" ++ p.raw ++ "\t" ++ path)

/-- Runs `check`. -/
def check (cwd : PosixPath) (paths : List String) (verbose nonMatching directory : Bool) :
    Engine Outcome := do
  let found ← paths.mapM fun path => do
    let p := cwd.resolveFrom path
    let v ← Manager.resolveAt p (directory || (← get).disk.isDir p)
    pure (v.ignored, checkLine path v verbose nonMatching)
  let anyIgnored := found.any (·.1)
  pure ⟨if anyIgnored then 0 else 1, found.filterMap (·.2), []⟩

/-- Runs `ls`. -/
def ls (cwd : PosixPath) (path : Option String) : Engine Outcome := do
  let start := (path.filter (!·.isEmpty)).map fun p => (cwd.resolveFrom p).toString
  let files ← Manager.iterFiles start
  let m ← get
  pure (listing m files [])
where
  /-- The relative paths of the files, stopping at the first outside the root. -/
  listing (m : Manager) : List PosixPath → List String → Outcome
    | [], printed => ⟨0, printed.reverse, []⟩
    | f :: rest, printed =>
      match f.relativeTo m.root with
      | some [] => listing m rest ("." :: printed)
      | some parts => listing m rest ("/".intercalate parts :: printed)
      | none =>
        ⟨2, printed.reverse, ["# ERROR: " ++ (EngineError.outsideScope f.toString m.root.toString).message]⟩

/-- Runs `lint`. -/
def lint (errorsOnly unused : Bool) : Engine Outcome := do
  let ds ← Manager.diagnostics (!errorsOnly) unused
  let errors := (ds.filter (·.severity == .error)).length
  let files := (← get).ignoreFiles.length
  pure ⟨if errors == 0 then 0 else 1, ds.map Diagnostic.render,
    ["# " ++ toString files ++ " rule files, " ++ toString errors ++ " errors, " ++
      toString (ds.length - errors) ++ " warnings"]⟩

/-- Runs an invocation with the home directories `homes` and an environment, in the working
directory `cwd`, over a file tree, with rule set versions starting at `nextVersion`. Returns the
outcome and the next free version; `none` stands for the `watch` command, which runs until
stopped. -/
def runWith (homes env : List (String × String)) (inv : Invocation) (cwd : PosixPath)
    (disk : FileTree) (nextVersion : Nat) : Except MatchError (Option Outcome × Nat) :=
  let m := managerOf homes env inv.options cwd disk nextVersion
  let command : Engine (Option Outcome) := match inv.command with
    | .check paths verbose nonMatching directory => some <$> check cwd paths verbose nonMatching directory
    | .ls path => some <$> ls cwd path
    | .lint errorsOnly unused => some <$> lint errorsOnly unused
    | .watch _ => pure none
  match (command.run).run m with
  | (.ok outcome, m) => .ok (outcome, m.nextVersion)
  | (.error (.mismatch e), _) => .error e
  | (.error (.outsideScope path root), m) =>
    .ok (some ⟨2, [], ["# ERROR: " ++ (EngineError.outsideScope path root).message]⟩, m.nextVersion)

/-- Runs an invocation knowing only the home directory of the environment. -/
def run (env : List (String × String)) (inv : Invocation) (cwd : PosixPath) (disk : FileTree)
    (nextVersion : Nat) : Except MatchError (Option Outcome × Nat) :=
  runWith (homesOf env) env inv cwd disk nextVersion

end Cli

end IgnoreRules
