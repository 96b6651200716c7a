import IgnoreRules.Cli.Run
import IgnoreRules.Watch

/-!
# The command line

`main` reads the arguments (cli.py:75–94 and 140–168), the `IGNORE_ENGINE_*` variables and the
working directory, loads the workspace below the root into a file tree (the contents of rule files
and outer rule files; other files are recorded by name), runs the command and prints what it gives.

`watch` keeps the rule sets current: it looks at the workspace again after each quiet period,
turns every changed rule file into a file system event for a change handler, and reports each
rule file it checked.
-/

namespace IgnoreRules

namespace Console

/-- The environment variables that configure an engine. -/
def settingNames : List String :=
  ["IGNORE_ENGINE_CACHE_SIZE", "IGNORE_ENGINE_IGNORE_CASE", "IGNORE_ENGINE_USE_DEFAULTS",
    "IGNORE_ENGINE_RULE_FILES", "IGNORE_ENGINE_OUTER_FILES"]

/-- The configuring variables that are set, and the home directory `HOME`. -/
def environment : IO (List (String × String)) :=
  (settingNames ++ ["HOME"]).filterMapM fun n => do pure ((← IO.getEnv n).map (n, ·))

/-- The home directories of the environment, then those of the users in the password file, by
user name. -/
def homes (env : List (String × String)) : IO (List (String × String)) := do
  let users ← try IO.FS.lines "/etc/passwd" catch _ => pure #[]
  let entries := users.toList.filterMap fun line =>
    match line.splitOn ":" with
    | name :: _ :: _ :: _ :: _ :: dir :: _ => if name.isEmpty then none else some (name, dir)
    | _ => none
  pure (Cli.homesOf env ++ entries)

/-- Loads the directories and files below a directory of the disk into a tree; the contents of
the files `wanted` picks are read, the others are recorded empty. Unreadable directories are
left out. -/
partial def loadBelow (dir : PosixPath) (wanted : PosixPath → Bool) (t : FileTree) : IO FileTree := do
  try
    let here ← IO.FS.realPath dir.toString
    let names := FileTree.sortNames ((← here.readDir).toList.map (·.fileName))
    names.foldlM (fun t name => do
      let child := dir.child name
      match (← (here / name).metadata).type with
      | .dir => loadBelow child wanted (t.makeDirectory child)
      | .file =>
        if wanted child then pure (t.write child (← IO.FS.readBinFile (here / name)).toList)
        else pure (t.write child [])
      | _ => pure t) t
  catch _ => pure t

/-- Loads the workspace of a configuration below its root. -/
def loadWorkspace (homes : List (String × String)) (root : PosixPath) (config : Config) :
    IO FileTree := do
  let outer := config.outerFiles.map (Manager.outerPath homes root)
  let wanted := fun (p : PosixPath) => config.ruleFilenames.contains p.name || outer.contains p.toString
  let present ← try (← IO.FS.realPath root.toString).isDir catch _ => pure false
  if present then loadBelow root wanted (FileTree.empty.makeDirectory root)
  else pure FileTree.empty

/-- The quiet period of `watch` in milliseconds, read from a decimal number of seconds. -/
def quietMillis (seconds : String) : UInt32 :=
  let (whole, frac) := (Text.strip seconds).toList.span (· != '.')
  let digits := fun (cs : List Char) => cs.foldl (fun n c => n * 10 + (c.toNat - '0'.toNat)) 0
  let fracDigits := (frac.drop 1).filter Char.isDigit
  let millis := digits (whole.filter Char.isDigit) * 1000 +
    digits ((fracDigits ++ ['0', '0', '0']).take 3)
  (max millis 50).toUInt32

/-- The events that turn one tree into the next, for the rule files `isRuleFile` picks. -/
def changes (before after : FileTree) (isRuleFile : PosixPath → Bool) : List FsEvent :=
  let files := fun (t : FileTree) => t.nodes.filterMap fun (p, n) =>
    match n with
    | .file bytes => if isRuleFile p then some (p, bytes) else none
    | .directory => none
  let old := files before
  let new := files after
  let created := new.filterMap fun (p, _) =>
    if (old.lookup p).isNone then some ⟨.created, p.toString, "", false⟩ else none
  let modified := new.filterMap fun (p, bytes) =>
    match old.lookup p with
    | some was => if was != bytes then some ⟨.modified, p.toString, "", false⟩ else none
    | none => none
  let deleted := old.filterMap fun (p, _) =>
    if (new.lookup p).isNone then some ⟨.deleted, p.toString, "", false⟩ else none
  created ++ modified ++ deleted

/-- Reports a rule file that was checked. -/
def report (m : Manager) (path : String) : String :=
  match m.ruleSet path with
  | none => "# removed " ++ path
  | some rs => "# reloaded " ++ path ++ " (" ++ toString rs.size ++ " patterns)"

/-- Opens the log file, if one is named, for appending: its directory is made and the file created
when missing. -/
def openLog (cwd : PosixPath) (logFile : Option String) : IO Unit := do
  match logFile with
  | some f =>
    if !f.isEmpty then
      let path := cwd.resolveFrom f
      IO.FS.createDirAll path.parent.toString
      let h ← IO.FS.Handle.mk path.toString .append
      h.flush
  | none => pure ()

/-- Prints a report line at once. -/
def say (line : String) : IO Unit := do
  let err ← IO.getStderr
  err.putStrLn line
  err.flush

/-- Watches the workspace until the process is stopped. -/
partial def watch (homes : List (String × String)) (m : Manager) (config : Config)
    (pause : UInt32) : IO Unit := do
  IO.sleep pause
  let disk ← loadWorkspace homes m.root config
  let events := changes m.disk disk fun p => m.isRuleFile p.toString
  let m := { m with disk }
  let ((checked, _), m) := (ChangeHandler.scheduleAll ⟨false, []⟩
    ((events.map (ChangeHandler.changesOf m)).flatten)).run m
  for path in checked do say (report m path)
  watch homes m config pause

/-- The lines printed for a refused command line: the usage, then the refusal. -/
def refusal : List String :=
  (Cli.Args.helpText none).takeWhile (!·.isEmpty) ++ ["ignore-engine: error: invalid arguments"]

end Console

end IgnoreRules

open IgnoreRules in
/-- Runs the command line. -/
def main (args : List String) : IO UInt32 := do
  match Cli.Args.parse args with
  | .refused =>
    for line in Console.refusal do IO.eprintln line
    pure 2
  | .help command =>
    for line in Cli.Args.helpText command do IO.println line
    pure 0
  | .run inv =>
    let env ← Console.environment
    let homes ← Console.homes env
    let cwd := PosixPath.normalize (← IO.currentDir).toString
    Console.openLog cwd inv.options.logFile
    let config := Cli.configOf env inv.options
    let root := cwd.resolveFrom inv.options.root
    let disk ← Console.loadWorkspace homes root config
    match inv.command with
    | .watch seconds =>
      let m := Cli.managerOf homes env inv.options cwd disk 1
      Console.say ("# Watching " ++ m.root.toString ++ " (Ctrl+C to stop)")
      Console.watch homes m config (Console.quietMillis seconds)
      pure 0
    | _ =>
      match Cli.runWith homes env inv cwd disk 1 with
      | .error e =>
        IO.eprintln ("TypeError: " ++ e.message)
        pure 1
      | .ok (outcome, _) =>
        let o := outcome.getD ⟨0, [], []⟩
        for line in o.stdout do IO.println line
        for line in o.stderr do IO.eprintln line
        pure o.exitCode.toUInt32
