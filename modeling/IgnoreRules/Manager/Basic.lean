import IgnoreRules.Resolve
import IgnoreRules.Source
import IgnoreRules.Config

/-!
# Ignore managers

A manager answers ignore questions for one workspace (manager.py:60–121 and 386–491): a root
directory, a configuration, a source of rule files and the file tree it can look at. It keeps the
registry of rule sets, the verdict cache and the supply of rule set versions.

Its rule sets are:

- the defaults, with the id `<defaults>`, based at the root, holding the default patterns;
- the outer rule files of the configuration, based at the root; a leading `~` or `~user` in
  their paths names a home directory;
- every rule file the source discovers, based at its own directory.

Loading builds all of them and swaps them in at once; a file whose contents are unchanged keeps
its rule set and version, and the verdicts of every rule set that changed or went away are
dropped from the cache. A file that cannot be read contributes an empty rule set whose error
says why.

- `Manager.createWith`: a manager over a workspace, loaded when asked, with the home
  directories it knows; `Manager.create` knows none.
- `Manager.loadRuleFiles`: (re)loads every rule set.
- `Manager.absolute`: a path of a request as an absolute normalised path.
-/

namespace IgnoreRules

/-- Why a question to a manager has no answer. -/
inductive EngineError where
  /-- A pattern could not be compared with a path component. -/
  | mismatch (e : MatchError)
  /-- A path that must lie under the root does not. -/
  | outsideScope (path root : String)
  deriving DecidableEq, Repr

/-- The message of an engine error. -/
def EngineError.message : EngineError → String
  | .mismatch e => e.message
  | .outsideScope path root => path ++ " is not under " ++ root

/-- The state of a manager. -/
structure Manager where
  root : PosixPath
  config : Config
  source : RuleFileSource
  /-- The files and directories the manager can look at. -/
  disk : FileTree
  registry : Registry
  cache : VerdictCache
  /-- The outer rule files, as absolute normalised paths. -/
  outerFiles : List String
  /-- Whether changes of the source are passed on to the manager. -/
  listening : Bool
  /-- The version the next rule set built gets. -/
  nextVersion : Nat
  deriving DecidableEq, Repr

/-- A change of a manager that may fail; the changes made before a failure stay. -/
abbrev Engine := ExceptT EngineError (StateM Manager)

namespace Manager

/-- The id of the rule set of the default patterns. -/
def defaultsId : String := "<defaults>"

/-- A path with a leading `~` or `~user` replaced by that user's home directory, its trailing
slashes dropped (`/` when nothing is left). `homes` holds the home directories by user name, the
current user's under the empty name; a path naming a user with no known home is left as it is. -/
def expandUser (homes : List (String × String)) (path : String) : String :=
  match path.toList with
  | '~' :: rest =>
    match homes.lookup (String.ofList (rest.takeWhile (· != '/'))) with
    | some home =>
      let expanded := String.ofList ((home.toList.reverse.dropWhile (· == '/')).reverse ++
        rest.dropWhile (· != '/'))
      if expanded.isEmpty then "/" else expanded
    | none => path
  | _ => path

/-- An outer rule file's path: a leading `~` names a home directory, and relative paths are taken
from the root. -/
def outerPath (homes : List (String × String)) (root : PosixPath) (path : String) : String :=
  (root.resolveFrom (expandUser homes path)).toString

/-- A path of a request as an absolute normalised path: relative paths are taken from the
root. -/
def absolute (m : Manager) (path : String) : PosixPath := m.root.resolveFrom path

/-- Outer rule files rank before the rule files found in the tree. -/
def originFor (m : Manager) (id : String) : Origin :=
  if m.outerFiles.contains id then Origin.outer else Origin.found

/-- Outer rule files apply at the root, the others in their own directory. -/
def baseDirFor (m : Manager) (id : String) : PosixPath :=
  if m.outerFiles.contains id then m.root else (PosixPath.ofString id).parent

/-- The default patterns in force. -/
def defaultPatterns (m : Manager) : List String := m.config.defaultPatternList

/-- Takes the next version. -/
def freshVersion : StateM Manager Nat :=
  modifyGet fun m => (m.nextVersion, { m with nextVersion := m.nextVersion + 1 })

/-- The rule set of a rule file's contents, with a new version. -/
def parseRuleFile (id contents : String) : StateM Manager RuleSet := do
  let m ← get
  let v ← freshVersion
  pure (RuleSet.ofText v id (m.baseDirFor id) contents (m.originFor id) m.config.maxPatternsPerFile)

/-- The empty rule set of a rule file that cannot be read, with a new version. -/
def unreadableRuleSet (id reason : String) : StateM Manager RuleSet := do
  let m ← get
  let v ← freshVersion
  pure (RuleSet.empty v id (m.baseDirFor id) [Diagnostic.unreadable id reason] (m.originFor id))

/-- The rule set of a file as the source has it now; unchanged contents keep the registered
rule set. -/
def readRuleSet (id : String) : StateM Manager RuleSet := do
  let m ← get
  match m.source.read m.disk id with
  | .error reason => unreadableRuleSet id reason
  | .ok contents =>
    match m.registry.get? id with
    | some current =>
      if current.digest == contentDigest contents then pure current else parseRuleFile id contents
    | none => parseRuleFile id contents

/-- The rule set of the default patterns; an unchanged one is kept. -/
def defaultsRuleSet : StateM Manager RuleSet := do
  let m ← get
  let text := "\n".intercalate m.defaultPatterns
  match m.registry.get? defaultsId with
  | some current => if current.digest == contentDigest text then pure current else build text
  | none => build text
where
  build (text : String) : StateM Manager RuleSet := do
    let m ← get
    let v ← freshVersion
    pure (RuleSet.ofText v defaultsId m.root text Origin.defaults 10000)

/-- Loads the defaults (when they hold a pattern), the outer rule files that exist and every
discovered rule file, and swaps them in at once. The cached verdicts of every rule set that was
replaced or dropped are invalidated. -/
def loadRuleFiles : StateM Manager Unit := do
  let defaults ← defaultsRuleSet
  let m ← get
  let outer ← (m.outerFiles.filter (m.source.present m.disk)).mapM readRuleSet
  let found ← (m.source.discover m.disk none).mapM fun p => readRuleSet (PosixPath.normalize p).toString
  let ruleSets := (if defaults.patterns.isEmpty then [] else [defaults]) ++ outer ++ found
  modify fun m =>
    let (previous, registry) := m.registry.replaceAll ruleSets
    let replaced := previous.filter fun old =>
      match registry.get? old.id with
      | some now => now.version != old.version
      | none => true
    let cache := replaced.foldl (fun c old => (c.invalidate old.id).2) m.cache
    { m with registry, cache }

/-- A manager over a workspace, listening to its source, where the outer rule files may name the
home directories `homes`; its rule files are loaded when `autoDiscover` holds. -/
def createWith (homes : List (String × String)) (root : PosixPath) (config : Config)
    (source : RuleFileSource) (disk : FileTree) (autoDiscover : Bool) (nextVersion : Nat) :
    Manager :=
  let m : Manager := {
    root, config, source, disk, registry := Registry.empty,
    cache := VerdictCache.empty config.cacheSize,
    outerFiles := config.outerFiles.map (outerPath homes root), listening := true, nextVersion }
  if autoDiscover then (loadRuleFiles.run m).2 else m

/-- A manager that knows no home directory: a `~` in an outer rule file's path stays as written. -/
def create (root : PosixPath) (config : Config) (source : RuleFileSource) (disk : FileTree)
    (autoDiscover : Bool) (nextVersion : Nat) : Manager :=
  createWith [] root config source disk autoDiscover nextVersion

/-- Runs a resolution on the manager's cache. -/
def onCache {α : Type} (r : Resolution α) : Engine α := do
  let m ← get
  let (result, cache) := (r.run).run m.cache
  set { m with cache }
  match result with
  | .ok a => pure a
  | .error e => throw (.mismatch e)

/-- The resolver of the manager's rule sets. -/
def resolver (m : Manager) : Resolver := ⟨m.registry, m.config.ignoreCase.holds⟩

end Manager

end IgnoreRules
