import IgnoreRules.RuleSet
import IgnoreRules.Decimal.Shortest

/-!
# The verdict cache

Verdicts are cached (cache.py:19–224) by path and directory flag, together with the versions of the
rule sets that produced them. A lookup hits only when the stored versions equal the versions the
caller would consult now, so a stale verdict is never returned even when an invalidation was missed;
a stale entry found this way is dropped and its hit counted as a miss.

Entries are kept least recently used first: a hit or a put of a present key moves the entry to
the end, and a put of a new key into a full cache evicts the first entry. A capacity of zero or
less disables the cache: nothing is stored and no counter moves.

A dependency index maps each rule set id to the keys whose verdicts were put with a version of
it, so that a changed rule set drops exactly its verdicts. Keys are removed from the index when
their entry is evicted, dropped as stale or invalidated; a key whose entry was replaced under
other rule sets stays listed under the old ones until then.

- `VerdictCache.get`, `VerdictCache.put`, `VerdictCache.invalidate`, `VerdictCache.clear`.
- `VerdictCache.stats`: sizes, counters, the hit rate and the size of the index.
-/

namespace IgnoreRules

/-- The key of a cached verdict: an absolute path and whether it names a directory. -/
abbrev CacheKey := String × Bool

/-- The rule sets behind a verdict, as (id, version) in the order they were consulted. -/
abbrev Versions := List (String × Int)

/-- A cached verdict with the versions it was computed from. -/
structure CacheEntry where
  key : CacheKey
  verdict : Verdict
  versions : Versions
  deriving DecidableEq, Repr

/-- A version-checked least-recently-used cache of verdicts with a dependency index. -/
structure VerdictCache where
  capacity : Int
  /-- Entries, least recently used first, keys distinct. -/
  entries : List CacheEntry
  hits : Nat
  misses : Nat
  evictions : Nat
  /-- For each rule set id, the keys that depend on it (no repeats, no empty list). -/
  deps : List (String × List CacheKey)
  deriving DecidableEq, Repr

namespace VerdictCache

/-- An empty cache of the given capacity. -/
def empty (capacity : Int) : VerdictCache := ⟨capacity, [], 0, 0, 0, []⟩

/-- Whether the cache stores anything. -/
def enabled (c : VerdictCache) : Bool := decide (0 < c.capacity)

/-- The number of entries. -/
def size (c : VerdictCache) : Nat := c.entries.length

/-- Removes a key from the index under each id of `versions`, dropping ids left with no key. -/
def forget (key : CacheKey) (versions : Versions) (deps : List (String × List CacheKey)) :
    List (String × List CacheKey) :=
  versions.foldl (fun ds (id, _) =>
    ds.filterMap fun (i, keys) =>
      if i == id then
        let keys := keys.erase key
        if keys.isEmpty then none else some (i, keys)
      else some (i, keys)) deps

/-- Adds a key to the index under one id. -/
def remember (key : CacheKey) (id : String) (deps : List (String × List CacheKey)) :
    List (String × List CacheKey) :=
  match deps.find? (·.1 == id) with
  | some _ => deps.map fun (i, keys) =>
      if i == id && !keys.contains key then (i, keys ++ [key]) else (i, keys)
  | none => deps ++ [(id, [key])]

/-- Looks up a verdict for the versions the caller would consult now. -/
def get (c : VerdictCache) (key : CacheKey) (current : Versions) : Option Verdict × VerdictCache :=
  if !c.enabled then (none, c)
  else
    match c.entries.find? (·.key == key) with
    | none => (none, { c with misses := c.misses + 1 })
    | some e =>
      if e.versions == current then
        (some e.verdict, { c with entries := c.entries.filter (·.key != key) ++ [e], hits := c.hits + 1 })
      else
        (none, { c with entries := c.entries.filter (·.key != key), misses := c.misses + 1,
                        deps := forget key e.versions c.deps })

/-- Stores a verdict; a new key in a full cache evicts the least recently used entry. -/
def put (c : VerdictCache) (key : CacheKey) (verdict : Verdict) (versions : Versions) :
    VerdictCache :=
  if !c.enabled then c
  else
    let entry : CacheEntry := ⟨key, verdict, versions⟩
    let present := c.entries.any (·.key == key)
    let entries := c.entries.filter (·.key != key) ++ [entry]
    let deps := versions.foldl (fun ds (id, _) => remember key id ds) c.deps
    if !present && decide (c.capacity < entries.length) then
      match entries with
      | oldest :: rest =>
        { c with entries := rest, evictions := c.evictions + 1,
                 deps := forget oldest.key oldest.versions deps }
      | [] => { c with entries := entries, deps := deps }
    else { c with entries := entries, deps := deps }

/-- Drops every entry that depends on a rule set, and tells how many were dropped. -/
def invalidate (c : VerdictCache) (id : String) : Nat × VerdictCache :=
  let keys := ((c.deps.find? (·.1 == id)).map (·.2)).getD []
  let deps := c.deps.filter (·.1 != id)
  keys.foldl (fun (n, c) key =>
    match c.entries.find? (·.key == key) with
    | some e => (n + 1, { c with entries := c.entries.filter (·.key != key),
                                 deps := forget key e.versions c.deps })
    | none => (n, c)) (0, { c with deps := deps })

/-- Empties the cache and resets its counters. -/
def clear (c : VerdictCache) : VerdictCache := empty c.capacity

/-- The hit rate in percent: `none` before any lookup, else hits / lookups * 100 computed in
binary doubles. -/
def hitRate (c : VerdictCache) : Option Decimal :=
  let total := c.hits + c.misses
  if total == 0 then none
  else some (decimalOfFloat (c.hits.toFloat / total.toFloat * 100.0))

/-- Counts about the cache. -/
structure Stats where
  size : Nat
  capacity : Int
  hits : Nat
  misses : Nat
  evictions : Nat
  hitRate : Option Decimal
  trackedRuleSets : Nat
  totalDependencies : Nat
  deriving DecidableEq, Repr

/-- The counts of the cache. -/
def stats (c : VerdictCache) : Stats :=
  ⟨c.size, c.capacity, c.hits, c.misses, c.evictions, c.hitRate, c.deps.length,
    (c.deps.map (·.2.length)).foldl (· + ·) 0⟩

end VerdictCache

end IgnoreRules
