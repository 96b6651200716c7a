import IgnoreRules.Registry
import IgnoreRules.Cache

/-!
# Resolving a path

The verdict for an absolute path combines the applicable rule sets (resolver.py:18–135):

- inside one rule set the last matching pattern wins;
- a deeper rule set overrides a shallower one: the rule sets are swept deepest first, and the
  first with a matching pattern decides;
- an ignored directory decides for everything below it. The directories between the shallowest
  applicable base directory and the path are checked root-most first, each against the rule sets
  above it, and the first one that is ignored gives the verdict.

Verdicts, including those of the directories checked on the way, go through the verdict cache,
keyed by the normalised path and the directory flag and checked against the versions of the rule
sets consulted.

- `Resolver.sweep`: the verdict of a list of rule sets, deepest first.
- `Resolver.resolve`: the verdict of a path, through the cache when asked.
-/

namespace IgnoreRules

/-- How paths are resolved: the registry to consult and whether case is ignored. -/
structure Resolver where
  registry : Registry
  ignoreCase : Bool

/-- A computation that may fail to compare a component and that updates the verdict cache; the
cache keeps the changes made before a failure. -/
abbrev Resolution := ExceptT MatchError (StateM VerdictCache)

namespace Resolver

/-- The (id, version) of each rule set, in order. -/
def versionsOf (ruleSets : List RuleSet) : Versions := ruleSets.map fun rs => (rs.id, (rs.version : Int))

/-- The verdict of the deepest rule set (the last of the list) with a matching pattern, or not
ignored when none matches. Shallower rule sets are not evaluated once a deeper one decides. -/
def sweep (ic : Bool) (path : PosixPath) (isDirectory : Bool) (ruleSets : List RuleSet) :
    Except MatchError Verdict :=
  deepestFirst ruleSets.reverse
where
  deepestFirst : List RuleSet → Except MatchError Verdict
    | [] => pure .notIgnored
    | rs :: rest => do
      match ← rs.evaluate ((path.relativeTo rs.baseDir).getD []) isDirectory ic with
      | some v => pure v
      | none => deepestFirst rest

/-- Lifts a failure to compare into a resolution. -/
def liftMatch {α : Type} : Except MatchError α → Resolution α
  | .ok a => pure a
  | .error err => throw err

/-- Looks up a verdict in the cache, or computes and stores it; without the cache it is only
computed. -/
def cached (useCache : Bool) (key : CacheKey) (versions : Versions)
    (compute : Resolution Verdict) : Resolution Verdict := do
  if useCache then
    match ← modifyGet fun (c : VerdictCache) => c.get key versions with
    | some v => pure v
    | none =>
      let v ← compute
      modify fun (c : VerdictCache) => c.put key v versions
      pure v
  else compute

/-- The verdict of a directory from the rule sets above it, assuming its own ancestors are not
ignored. -/
def directoryVerdict (rv : Resolver) (useCache : Bool) (dir : PosixPath)
    (ruleSets : List RuleSet) : Resolution Verdict :=
  cached useCache (dir.toString, true) (versionsOf ruleSets)
    (liftMatch (sweep rv.ignoreCase dir true ruleSets))

/-- The first of the directories, root-most first, that is ignored by the rule sets of smaller
depth, with its verdict. -/
def ignoredAncestor (rv : Resolver) (useCache : Bool) (ruleSets : List RuleSet) :
    List PosixPath → Resolution (Option Verdict)
  | [] => pure none
  | dir :: rest => do
    let v ← rv.directoryVerdict useCache dir (ruleSets.takeWhile (·.baseDir.depth < dir.depth))
    if v.ignored then pure (some v) else rv.ignoredAncestor useCache ruleSets rest

/-- The verdict of a path from its applicable rule sets, root-most first: an ignored directory
between the shallowest base directory and the path decides, else the sweep of all of them. -/
def compute (rv : Resolver) (useCache : Bool) (path : PosixPath) (isDirectory : Bool) :
    List RuleSet → Resolution Verdict
  | [] => pure .notIgnored
  | ruleSets@(top :: _) => do
    let between := (path.parents.takeWhile (· != top.baseDir)).reverse
    match ← rv.ignoredAncestor useCache ruleSets between with
    | some v => pure v
    | none => liftMatch (sweep rv.ignoreCase path isDirectory ruleSets)

/-- The rule sets that judge a path, root-most first. -/
def applicable (rv : Resolver) (path : String) : List RuleSet :=
  rv.registry.applicable (PosixPath.normalize path)

/-- Whether a path is ignored, and by which pattern. A path that no rule set judges is not
ignored and leaves the cache untouched; otherwise the verdict is looked up and stored under the
normalised path when `useCache` holds. -/
def resolve (rv : Resolver) (path : String) (isDirectory useCache : Bool) : Resolution Verdict :=
  let p := PosixPath.normalize path
  match rv.registry.applicable p with
  | [] => pure .notIgnored
  | ruleSets =>
    cached useCache (p.toString, isDirectory) (versionsOf ruleSets)
      (rv.compute useCache p isDirectory ruleSets)

end Resolver

end IgnoreRules
