import IgnoreRules.Manager.Notify
import IgnoreRules.Inspect

/-!
# Reports of a manager

What a manager tells about its rule sets and its cache (manager.py:331–372).

- `Manager.diagnostics`: the errors of every rule set, and optionally the inspection warnings and
  the entries that match nothing in the file tree, ordered by file and line.
- `Manager.ignoreFiles`: the ids of the loaded rule files, defaults excluded, root-most first.
- `Manager.ruleSet`: the rule set of a rule file.
- `Manager.stats`: counts about the manager, its registry and its cache.
-/

namespace IgnoreRules

namespace Manager

/-- Orders diagnostics by file, then line, keeping the order of equal ones. -/
def byFileAndLine (ds : List Diagnostic) : List Diagnostic :=
  ds.mergeSort fun a b => decide (a.file < b.file) || (a.file == b.file && decide (a.line ≤ b.line))

/-- The problems of the loaded rule sets: their errors, then when `includeWarnings` holds their
inspection warnings and, when `checkUnused` also holds, the entries of rule files that match
nothing below their directory; ordered by file and line. -/
def diagnostics (includeWarnings checkUnused : Bool) : Engine (List Diagnostic) := do
  let m ← get
  let ic := m.config.ignoreCase.holds
  let found ← m.registry.all.mapM fun rs => do
    if includeWarnings then
      let warnings ← liftMismatch (Inspect.ruleSet rs ic)
      let unused ← if checkUnused && rs.origin != Origin.defaults then
          liftMismatch (Inspect.unused rs (m.disk.below rs.baseDir) ic)
        else pure []
      pure (rs.errors ++ warnings ++ unused)
    else pure rs.errors
  pure (byFileAndLine found.flatten)
where
  liftMismatch {α : Type} : Except MatchError α → Engine α
    | .ok a => pure a
    | .error e => throw (.mismatch e)

/-- The ids of the loaded rule files, defaults excluded, root-most first. -/
def ignoreFiles (m : Manager) : List String :=
  (m.registry.all.filter (·.origin != Origin.defaults)).map (·.id)

/-- The rule set of a rule file. -/
def ruleSet (m : Manager) (path : String) : Option RuleSet :=
  m.registry.get? (m.absolute path).toString

/-- Counts about a manager. -/
structure Stats where
  root : String
  ruleFilenames : List String
  defaultPatterns : Nat
  registry : Registry.Stats
  cache : VerdictCache.Stats
  deriving DecidableEq, Repr

/-- The counts of a manager. -/
def stats (m : Manager) : Stats :=
  ⟨m.root.toString, m.config.ruleFilenames, m.defaultPatterns.length, m.registry.stats, m.cache.stats⟩

end Manager

end IgnoreRules
