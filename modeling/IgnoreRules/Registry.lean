import IgnoreRules.DirIndex

/-!
# The registry of rule sets

A registry is a snapshot (registry.py:16–195): the current rule sets, at most one per id, in the
order their ids were first registered; the index of their base directories, each with its bucket of
rule sets ordered by origin and then id; and a generation number that counts the published changes.
Each change builds a new snapshot and updates the index along with the rule sets, and the snapshot
carries the proof that the two stay in step.

A path is judged by the rule sets whose base directory is a proper ancestor of it: the buckets of
its ancestors, the root-most first.

- `Registry.register`, `Registry.unregister`, `Registry.replaceAll`, `Registry.clear`: changes,
  each publishing a new generation (an unregister of an absent id changes nothing).
- `Registry.bucket`, `Registry.applicable`, `Registry.all`: views.
-/

namespace IgnoreRules

/-- The registered rule sets, ids distinct, the index of their base directories, and the count
of published changes. -/
structure Registry where
  ruleSets : List RuleSet
  byDir : DirIndex
  generation : Nat
  indexes : Indexes ruleSets byDir
  deriving DecidableEq, Repr

namespace Registry

/-- The registry with no rule set. -/
def empty : Registry := ⟨[], [], 0, Indexes.nil⟩

/-- The rule set of an id. -/
def get? (r : Registry) (id : String) : Option RuleSet := r.ruleSets.find? (·.id == id)

/-- Registers a rule set, replacing the one of the same id, and returns the replaced one. -/
def register (r : Registry) (rs : RuleSet) : Option RuleSet × Registry :=
  (r.get? rs.id, ⟨upsert r.ruleSets rs, r.byDir.register (r.get? rs.id) rs, r.generation + 1,
    r.indexes.register rs⟩)

/-- Removes the rule set of an id and returns it; nothing changes when the id is absent. -/
def unregister (r : Registry) (id : String) : Option RuleSet × Registry :=
  match h : r.get? id with
  | none => (none, r)
  | some rs => (some rs, ⟨r.ruleSets.filter (·.id != id), r.byDir.unregister rs, r.generation + 1,
      r.indexes.unregister h⟩)

/-- Replaces every rule set at once; of repeated ids the last wins, in the place of the first.
Returns the rule sets registered before. -/
def replaceAll (r : Registry) (ruleSets : List RuleSet) : List RuleSet × Registry :=
  (r.ruleSets, ⟨ruleSets.foldl upsert [], DirIndex.group (ruleSets.foldl upsert []),
    r.generation + 1, Indexes.group (nodup_ids_foldl_upsert ruleSets [] List.nodup_nil)⟩)

/-- Removes every rule set. -/
def clear (r : Registry) : Registry := ⟨[], [], r.generation + 1, Indexes.nil⟩

/-- The rule sets of one base directory, by origin and then id. -/
def bucket (r : Registry) (dir : PosixPath) : List RuleSet := r.byDir.bucket dir

/-- The base directories that have rule sets. -/
def directories (r : Registry) : List PosixPath := r.byDir.map (·.1)

/-- The rule sets that judge a path: the buckets of its proper ancestors, root-most first. -/
def applicable (r : Registry) (path : PosixPath) : List RuleSet :=
  if r.byDir.isEmpty then [] else path.parents.reverse.flatMap r.bucket

/-- Every rule set, root-most first: by depth of the base directory, origin, then id. -/
def all (r : Registry) : List RuleSet :=
  r.ruleSets.mergeSort fun a b =>
    a.baseDir.depth < b.baseDir.depth ||
      (a.baseDir.depth == b.baseDir.depth && bucketOrder a b)

/-- Counts about the registry. -/
structure Stats where
  totalRuleSets : Nat
  totalPatterns : Nat
  directoriesWithRules : Nat
  ruleSetsWithErrors : Nat
  generation : Nat
  deriving DecidableEq, Repr

/-- The counts of the registry. -/
def stats (r : Registry) : Stats :=
  ⟨r.ruleSets.length, (r.ruleSets.map RuleSet.size).foldl (· + ·) 0, r.directories.length,
    (r.ruleSets.filter (!·.errors.isEmpty)).length, r.generation⟩

end Registry

end IgnoreRules
