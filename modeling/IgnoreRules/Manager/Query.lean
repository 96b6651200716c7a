import IgnoreRules.Manager.Basic

/-!
# Questions to a manager

Every question takes a path of a request (manager.py:123–224), absolute or relative to the root, and
answers it for the absolute normalised path. Verdicts go through the manager's cache.

- `Manager.resolve`: the verdict for a path.
- `Manager.shouldIgnore`: whether a path is ignored; without a kind given, the file tree tells
  whether it is a directory.
- `Manager.filterPaths`: the paths that are not ignored, in order.
- `Manager.iterFiles`: the files below a directory that are not ignored, never entering an ignored
  directory.
- `Manager.patternsForPath`: the patterns that can judge a path, in precedence order.
- `Manager.relativePath`: a path relative to the root.
- `Manager.isRuleFile`: whether a path is a rule file the manager tracks.
-/

namespace IgnoreRules

namespace Manager

/-- The verdict for an absolute path. -/
def resolveAt (p : PosixPath) (isDirectory : Bool) : Engine Verdict := do
  let m ← get
  onCache (m.resolver.resolve p.toString isDirectory true)

/-- The verdict for a path of a request. -/
def resolve (path : String) (isDirectory : Bool) : Engine Verdict := do
  resolveAt ((← get).absolute path) isDirectory

/-- Whether a path is ignored; when its kind is not given, the file tree tells whether it is a
directory. -/
def shouldIgnore (path : String) (isDirectory : Option Bool) : Engine Bool := do
  let m ← get
  let p := m.absolute path
  let v ← resolveAt p (isDirectory.getD (m.disk.isDir p))
  pure v.ignored

/-- The paths that are not ignored, in their order and as given. -/
def filterPaths (paths : List String) (isDirectory : Bool) : Engine (List String) :=
  paths.filterM fun p => do pure !(← resolve p isDirectory).ignored

/-- The files below `dir` that are not ignored, within `fuel` levels: first the files of `dir`
by name, then those of each subdirectory that is not ignored, by name. The subdirectories are
judged before the files. -/
def filesFrom (disk : FileTree) : Nat → PosixPath → Engine (List PosixPath)
  | 0, _ => pure []
  | fuel + 1, dir => do
    let kept ← (disk.subdirectories dir).filterM fun d => do
      pure !(← resolveAt (dir.child d) true).ignored
    let files ← (disk.files dir).filterM fun f => do
      pure !(← resolveAt (dir.child f) false).ignored
    let deeper ← kept.mapM fun d => filesFrom disk fuel (dir.child d)
    pure (files.map dir.child ++ deeper.flatten)

/-- The files below a directory (the root by default) that are not ignored, as absolute paths. -/
def iterFiles (start : Option String) : Engine (List PosixPath) := do
  let m ← get
  let dir := (start.map m.absolute).getD m.root
  filesFrom m.disk (m.disk.height + 1) dir

/-- The patterns of the rule sets that can judge a path; later ones take precedence. -/
def patternsForPath (path : String) : StateM Manager (List Pattern) := do
  let m ← get
  pure ((m.registry.applicable (m.absolute path)).flatMap (·.patterns))

/-- A path relative to the root, `.` for the root itself. -/
def relativePath (path : String) : Engine String := do
  let m ← get
  match (m.absolute path).relativeTo m.root with
  | some [] => pure "."
  | some parts => pure ("/".intercalate parts)
  | none => throw (.outsideScope path m.root.toString)

/-- Whether a path is a rule file the manager tracks: an outer rule file, or one the source
recognises by name. -/
def isRuleFile (m : Manager) (path : String) : Bool :=
  let id := (m.absolute path).toString
  m.outerFiles.contains id || m.source.isRuleFile id

end Manager

end IgnoreRules
