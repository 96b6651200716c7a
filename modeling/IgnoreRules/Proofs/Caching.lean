import Mathlib
import IgnoreRules.Proofs.Precedence

/-!
# The verdict cache is transparent

Resolving a path through the cache (resolver.py:52–93, cache.py:124–198) gives the same result as
resolving it without the cache, on the same registry, after any history of registry changes, cache
invalidations and clears, and resolutions with or without the cache, at any capacity of the cache.
It rests on one assumption: two rule sets that may be registered and share an id and a version are
the same rule set.

The proof keeps one invariant of the cache, `CacheSound`: every stored verdict is the verdict,
computed without the cache, of the path its key names, over rule sets whose ids and versions it
records. A lookup that hits then names the rule sets the caller would consult, so it returns what
they give. The entries that the walk over the ancestors stores hold the sweep of a directory
alone; they are sound because the walk only reaches a directory once every directory above it
was found not ignored, and then the sweep is the directory's whole verdict.

## Main statements

- `CacheSound.get_hit`: a hit gives the uncached verdict.
- `Resolver.resolve_faithful`: resolving through the cache gives the uncached verdict and keeps
  the invariant.
- `SessionReachable`: the registries and caches a resolver reaches.
- `resolve_cached_eq_uncached`: the cache is transparent on every reachable state.
- `resolve_below_ignored_directory`: on every reachable state, with or without the cache, an
  ignored directory gives its verdict to every path below it.
-/

namespace IgnoreRules

/-! ## The cache keeps only what was put -/

namespace VerdictCache

variable {c : VerdictCache} {key : CacheKey} {current : Versions} {e : CacheEntry}

/-- A lookup only drops and reorders entries. -/
theorem mem_get_entries (h : e ∈ (c.get key current).2.entries) : e ∈ c.entries := by
  unfold get at h
  split at h
  · exact h
  · split at h
    · exact h
    · rename_i found hfound
      split at h
      · rcases List.mem_append.mp h with h | h
        · exact List.mem_of_mem_filter h
        · rw [List.mem_singleton.mp h]
          exact List.mem_of_find?_eq_some hfound
      · exact List.mem_of_mem_filter h

/-- A lookup hits only on an entry of the key, stored with exactly the versions asked for. -/
theorem get_hit {v : Verdict} (h : (c.get key current).1 = some v) :
    ∃ e ∈ c.entries, e.key = key ∧ e.versions = current ∧ e.verdict = v := by
  unfold get at h
  split at h
  · cases h
  · split at h
    · cases h
    · rename_i found hfound
      split at h
      · rename_i hversions
        cases h
        have hkey := List.find?_some hfound
        exact ⟨found, List.mem_of_find?_eq_some hfound, beq_iff_eq.mp hkey,
          beq_iff_eq.mp hversions, rfl⟩
      · cases h

/-- A put adds at most its own entry; an eviction only drops one. -/
theorem mem_put_entries {v : Verdict} (h : e ∈ (c.put key v current).entries) :
    e ∈ c.entries ∨ e = ⟨key, v, current⟩ := by
  have hnew : e ∈ c.entries.filter (·.key != key) ++ [⟨key, v, current⟩] →
      e ∈ c.entries ∨ e = ⟨key, v, current⟩ := by
    intro h
    rcases List.mem_append.mp h with h | h
    · exact Or.inl (List.mem_of_mem_filter h)
    · exact Or.inr (List.mem_singleton.mp h)
  unfold put at h
  split at h
  · exact Or.inl h
  · dsimp only at h
    split at h
    · split at h
      · rename_i oldest rest hentries
        exact hnew (by rw [hentries]; exact List.mem_cons_of_mem oldest h)
      · exact hnew h
    · exact hnew h

/-- A fold whose every step only drops entries only drops entries. -/
theorem mem_foldl_entries {α : Type} {F : α × VerdictCache → CacheKey → α × VerdictCache}
    (hF : ∀ acc key, ∀ e ∈ (F acc key).2.entries, e ∈ acc.2.entries) :
    ∀ (keys : List CacheKey) (acc : α × VerdictCache),
      ∀ e ∈ (keys.foldl F acc).2.entries, e ∈ acc.2.entries
  | [], _, _, he => he
  | key :: keys, acc, e, he => hF acc key e (mem_foldl_entries hF keys (F acc key) e he)

/-- Invalidating a rule set only drops entries. -/
theorem mem_invalidate_entries {id : String} (h : e ∈ (c.invalidate id).2.entries) :
    e ∈ c.entries := by
  unfold invalidate at h
  refine mem_foldl_entries (fun acc key e he => ?_) _ _ e h
  -- each key of the index drops its entry, if there is one
  obtain ⟨n, c'⟩ := acc
  dsimp only at he
  split at he
  · exact List.mem_of_mem_filter he
  · exact he

theorem entries_clear : c.clear.entries = [] := rfl

end VerdictCache

/-! ## Sound entries -/

/-- Rule sets that may be registered share an id and a version only when they are the same. -/
def VersionsUnique (U : RuleSet → Prop) : Prop :=
  ∀ a b, U a → U b → a.id = b.id → a.version = b.version → a = b

/-- Among rule sets that may be registered, equal versions name equal rule sets. -/
theorem Resolver.eq_of_versionsOf_eq {U : RuleSet → Prop} (hU : VersionsUnique U) :
    ∀ {A B : List RuleSet}, (∀ rs ∈ A, U rs) → (∀ rs ∈ B, U rs) →
      Resolver.versionsOf A = Resolver.versionsOf B → A = B
  | [], [], _, _, _ => rfl
  | [], _ :: _, _, _, h => by simp [Resolver.versionsOf] at h
  | _ :: _, [], _, _, h => by simp [Resolver.versionsOf] at h
  | a :: A, b :: B, hA, hB, h => by
    simp only [Resolver.versionsOf, List.map_cons, List.cons.injEq, Prod.mk.injEq,
      Int.ofNat_inj] at h
    obtain ⟨⟨hid, hversion⟩, hrest⟩ := h
    rw [hU a b (hA a List.mem_cons_self) (hB b List.mem_cons_self) hid hversion,
      Resolver.eq_of_versionsOf_eq hU (fun rs h => hA rs (List.mem_cons_of_mem a h))
        (fun rs h => hB rs (List.mem_cons_of_mem b h)) hrest]

/-- A cached verdict is sound when it is the verdict, computed without the cache, of the path its
key names, over rule sets that may be registered and whose ids and versions it records. -/
def EntrySound (ic : Bool) (U : RuleSet → Prop) (e : CacheEntry) : Prop :=
  ∃ (p : PosixPath) (A : List RuleSet), p.Canonical ∧ e.key.1 = p.toString ∧
    (∀ rs ∈ A, U rs) ∧ e.versions = Resolver.versionsOf A ∧
      Resolver.verdictOf ic p e.key.2 A = .ok e.verdict

/-- Every entry of the cache is sound. -/
def CacheSound (ic : Bool) (U : RuleSet → Prop) (c : VerdictCache) : Prop :=
  ∀ e ∈ c.entries, EntrySound ic U e

namespace CacheSound

variable {ic : Bool} {U : RuleSet → Prop} {c : VerdictCache}

theorem empty (capacity : Int) : CacheSound ic U (VerdictCache.empty capacity) :=
  fun _ he => absurd he List.not_mem_nil

theorem get (h : CacheSound ic U c) (key : CacheKey) (current : Versions) :
    CacheSound ic U (c.get key current).2 :=
  fun e he => h e (VerdictCache.mem_get_entries he)

theorem put (h : CacheSound ic U c) {key : CacheKey} {v : Verdict} {current : Versions}
    (hentry : EntrySound ic U ⟨key, v, current⟩) : CacheSound ic U (c.put key v current) := by
  intro e he
  rcases VerdictCache.mem_put_entries he with he | rfl
  · exact h e he
  · exact hentry

theorem invalidate (h : CacheSound ic U c) (id : String) : CacheSound ic U (c.invalidate id).2 :=
  fun e he => h e (VerdictCache.mem_invalidate_entries he)

theorem clear : CacheSound ic U c.clear := by
  intro e he
  rw [VerdictCache.entries_clear] at he
  exact absurd he List.not_mem_nil

/-- A hit on the key of a canonical path, asked with the versions of rule sets that may be
registered, gives their verdict computed without the cache. -/
theorem get_hit (h : CacheSound ic U c) (hU : VersionsUnique U) {p : PosixPath}
    (hp : p.Canonical) {isDirectory : Bool} {A : List RuleSet} (hA : ∀ rs ∈ A, U rs) {v : Verdict}
    (hhit : (c.get (p.toString, isDirectory) (Resolver.versionsOf A)).1 = some v) :
    Resolver.verdictOf ic p isDirectory A = .ok v := by
  obtain ⟨e, he, hkey, hversions, rfl⟩ := VerdictCache.get_hit hhit
  obtain ⟨q, B, hq, hkeyq, hB, hversionsB, hverdict⟩ := h e he
  -- the key names the path, and the versions name the rule sets
  have hpq : q = p := PosixPath.toString_injective hq hp (by rw [← hkeyq, hkey])
  have hAB : B = A := Resolver.eq_of_versionsOf_eq hU hB hA (by rw [← hversionsB, hversions])
  rw [hkey, hpq, hAB] at hverdict
  exact hverdict

end CacheSound

/-! ## Resolutions faithful to a result -/

/-- A resolution is faithful to `t` under an invariant `S` of the cache when, run from any cache
that satisfies `S`, it gives `t` and leaves a cache that satisfies `S`. -/
def Faithful {α : Type} (S : VerdictCache → Prop) (m : Resolution α)
    (t : Except MatchError α) : Prop :=
  ∀ c, S c → (m.run.run c).1 = t ∧ S (m.run.run c).2

namespace Faithful

variable {α β : Type} {S : VerdictCache → Prop}

theorem pure (a : α) : Faithful S (Pure.pure a) (.ok a) :=
  fun _ hc => ⟨rfl, hc⟩

theorem liftMatch (x : Except MatchError α) : Faithful S (Resolver.liftMatch x) x := by
  intro c hc
  rw [run_liftMatch]
  exact ⟨rfl, hc⟩

theorem bind {m : Resolution α} {f : α → Resolution β} {t : Except MatchError α}
    {g : α → Except MatchError β} (hm : Faithful S m t)
    (hf : ∀ a, t = .ok a → Faithful S (f a) (g a)) : Faithful S (m >>= f) (t >>= g) := by
  intro c hc
  obtain ⟨hres, hS⟩ := hm c hc
  rw [run_bind]
  rcases hrun : m.run.run c with ⟨res, c'⟩
  rw [hrun] at hres hS
  change res = t at hres
  subst hres
  cases res with
  | error e => exact ⟨rfl, hS⟩
  | ok a => exact hf a rfl c' hS

end Faithful

namespace Resolver

variable {ic : Bool} {A : List RuleSet} {p : PosixPath}

/-- Filtering out rule sets that are not above `x` anyway does not change whether `x` blocks. -/
theorem blocks_filter {q : RuleSet → Bool} {x : PosixPath}
    (h : ∀ rs ∈ A, x.isUnder rs.baseDir = true → q rs = true) :
    blocks ic (A.filter q) x = blocks ic A x := by
  rw [blocks, blocks, sweepSpec_filter _ h]

/-- When no directory between the shallowest base directory and `p` blocks, the walk's verdict
on `p` is its own sweep. -/
theorem verdictOf_of_unblocked {top : RuleSet} {rest : List RuleSet}
    (hA : (top :: rest).Pairwise RuleSet.Precedes)
    (hunder : ∀ rs ∈ top :: rest, p.isUnder rs.baseDir = true)
    (hclear : ∀ x, p.isUnder x = true → x.isUnder top.baseDir = true →
      blocks ic (top :: rest) x = .ok none) (isDirectory : Bool) :
    verdictOf ic p isDirectory (top :: rest) = sweepSpec ic (top :: rest) p isDirectory := by
  have hnone : (p.parents.reverse.filter (·.isUnder top.baseDir)).findSomeM?
      (blocks ic (top :: rest)) = .ok none := by
    refine findSomeM?_eq_ok_none fun x hx => ?_
    obtain ⟨hxp, hxtop⟩ := List.mem_filter.mp hx
    exact hclear x (PosixPath.mem_parents.mp (List.mem_reverse.mp hxp)) hxtop
  rw [verdictOf_eq_judge hA hunder, judge_cons, hnone]
  rfl

end Resolver

theorem Resolver.run_cached_true (key : CacheKey) (versions : Versions)
    (compute : Resolution Verdict) (c : VerdictCache) :
    (Resolver.cached true key versions compute).run.run c =
      match (c.get key versions).1 with
      | some v => (.ok v, (c.get key versions).2)
      | none =>
        match compute.run.run (c.get key versions).2 with
        | (.ok v, c') => (.ok v, c'.put key v versions)
        | (.error e, c') => (.error e, c') := by
  have hget : (modifyGet fun (c : VerdictCache) => c.get key versions : Resolution _).run.run c =
      (.ok (c.get key versions).1, (c.get key versions).2) := rfl
  simp only [Resolver.cached, ↓reduceIte]
  rw [run_bind, hget]
  rcases c.get key versions with ⟨_ | v, c'⟩
  · dsimp only
    rw [run_bind]
    rcases compute.run.run c' with ⟨_ | v, c''⟩ <;> rfl
  · rfl

/-! ## Resolving through the cache -/

namespace Resolver

variable {ic : Bool} {U : RuleSet → Prop} {rv : Resolver}

/-- Looking up the verdict of a canonical path over rule sets that may be registered, under their
key and versions, around a computation faithful to that verdict, is faithful to it. -/
theorem cached_faithful (hU : VersionsUnique U) {p : PosixPath} (hp : p.Canonical)
    {isDirectory : Bool} {A : List RuleSet} (hA : ∀ rs ∈ A, U rs) {compute : Resolution Verdict}
    {t : Except MatchError Verdict} (hcompute : Faithful (CacheSound ic U) compute t)
    (ht : verdictOf ic p isDirectory A = t) :
    Faithful (CacheSound ic U) (cached true (p.toString, isDirectory) (versionsOf A) compute) t := by
  intro c hc
  rw [run_cached_true]
  cases hfound : (c.get (p.toString, isDirectory) (versionsOf A)).1 with
  | some v => exact ⟨by rw [← ht, hc.get_hit hU hp hA hfound], hc.get _ _⟩
  | none =>
    obtain ⟨hres, hS⟩ := hcompute _ (hc.get (p.toString, isDirectory) (versionsOf A))
    rcases hrun : compute.run.run (c.get (p.toString, isDirectory) (versionsOf A)).2
      with ⟨_ | v, c'⟩
    · rw [hrun] at hres hS
      exact ⟨hres, hS⟩
    · rw [hrun] at hres hS
      -- the computed verdict is stored under the key and versions it was computed from
      exact ⟨hres, hS.put ⟨p, A, hp, rfl, hA, rfl, ht.trans hres.symm⟩⟩

/-- Looking up the verdict of an ancestor `dir` of `p`, when no directory between the
shallowest base directory and `dir` blocks, gives its sweep: a stored verdict of `dir` is its
whole verdict, and that is its sweep. -/
theorem directoryVerdict_faithful (hU : VersionsUnique U) (hids : rv.registry.IdsDistinct)
    (hreg : ∀ rs ∈ rv.registry.ruleSets, U rs) {p dir : PosixPath} (hp : p.Canonical)
    {top : RuleSet} {rest : List RuleSet} (hA : rv.registry.applicable p = top :: rest)
    (hdir : p.isUnder dir = true) (htop : dir.isUnder top.baseDir = true)
    (hclear : ∀ x, dir.isUnder x = true → x.isUnder top.baseDir = true →
      blocks rv.ignoreCase (top :: rest) x = .ok none) :
    Faithful (CacheSound rv.ignoreCase U)
      (rv.directoryVerdict true dir ((top :: rest).takeWhile (·.baseDir.depth < dir.depth)))
      (sweepSpec rv.ignoreCase (top :: rest) dir true) := by
  have hpair : (top :: rest).Pairwise RuleSet.Precedes := hA ▸ Registry.pairwise_applicable hids
  have hunder : ∀ rs ∈ top :: rest, p.isUnder rs.baseDir = true :=
    fun rs hrs => (Registry.mem_applicable.mp (hA ▸ hrs)).2
  -- the rule sets the walk passes for `dir` are those that judge `dir`
  have hB : rv.registry.applicable dir = (top :: rest).filter (dir.isUnder ·.baseDir) := by
    rw [Registry.applicable_of_isUnder hids hdir, hA]
  have hverdict : verdictOf rv.ignoreCase dir true (rv.registry.applicable dir) =
      sweepSpec rv.ignoreCase (top :: rest) dir true := by
    have hBpair := Registry.pairwise_applicable (p := dir) hids
    have hBunder : ∀ rs ∈ rv.registry.applicable dir, dir.isUnder rs.baseDir = true :=
      fun rs hrs => (Registry.mem_applicable.mp hrs).2
    have hcons : (top :: rest).filter (dir.isUnder ·.baseDir) =
        top :: rest.filter (dir.isUnder ·.baseDir) := List.filter_cons_of_pos htop
    rw [hB, hcons] at hBpair hBunder ⊢
    rw [verdictOf_of_unblocked hBpair hBunder, ← hcons, sweepSpec_filter _ fun _ _ h => h]
    intro x hx hxtop
    rw [← hcons, blocks_filter fun _ _ h => PosixPath.isUnder_trans hx h]
    exact hclear x hx hxtop
  rw [directoryVerdict, takeWhile_depth_eq_filter hpair hunder hdir, ← hB]
  refine cached_faithful hU (hp.of_mem_parents (PosixPath.mem_parents.mpr hdir))
    (fun rs hrs => hreg rs (Registry.mem_applicable.mp hrs).1) ?_ hverdict
  rw [hB, sweep_filter_eq_sweepSpec]
  exact Faithful.liftMatch _

/-- The walk over the directories between the shallowest base directory and `p` is faithful to
the search for a blocking directory. It carries the directories `pre` already passed, none of
which blocks. -/
theorem ignoredAncestor_faithful (hU : VersionsUnique U) (hids : rv.registry.IdsDistinct)
    (hreg : ∀ rs ∈ rv.registry.ruleSets, U rs) {p : PosixPath} (hp : p.Canonical)
    {top : RuleSet} {rest : List RuleSet} (hA : rv.registry.applicable p = top :: rest) :
    ∀ (pre dirs : List PosixPath), (p.parents.takeWhile (· != top.baseDir)).reverse = pre ++ dirs →
      (∀ x ∈ pre, blocks rv.ignoreCase (top :: rest) x = .ok none) →
      Faithful (CacheSound rv.ignoreCase U) (rv.ignoredAncestor true (top :: rest) dirs)
        (dirs.findSomeM? (blocks rv.ignoreCase (top :: rest)))
  | _, [], _, _ => Faithful.pure none
  | pre, dir :: dirs, hsplit, hpre => by
    have htopp : p.isUnder top.baseDir = true :=
      (Registry.mem_applicable.mp (hA ▸ List.mem_cons_self)).2
    obtain ⟨hdir, htop⟩ := (PosixPath.mem_between htopp).mp
      (hsplit ▸ List.mem_append_right pre List.mem_cons_self)
    -- a directory between `top` and `dir` comes before `dir` in the walk, so it was passed
    have hclear : ∀ x, dir.isUnder x = true → x.isUnder top.baseDir = true →
        blocks rv.ignoreCase (top :: rest) x = .ok none := by
      intro x hx hxtop
      have hxmem : x ∈ pre ++ dir :: dirs :=
        hsplit ▸ (PosixPath.mem_between htopp).mpr ⟨PosixPath.isUnder_trans hdir hx, hxtop⟩
      have hlater : (dir :: dirs).Pairwise (fun a b => a.depth < b.depth) :=
        (List.pairwise_append.mp (hsplit ▸ PosixPath.pairwise_between)).2.1
      have hxdepth := PosixPath.depth_lt_of_isUnder hx
      rcases List.mem_append.mp hxmem with hx' | hx'
      · exact hpre x hx'
      · rcases List.mem_cons.mp hx' with rfl | hx'
        · exact absurd hxdepth (Nat.lt_irrefl _)
        · exact absurd ((List.pairwise_cons.mp hlater).1 x hx') (Nat.lt_asymm hxdepth)
    rw [ignoredAncestor, findSomeM?_blocks_cons]
    refine Faithful.bind (directoryVerdict_faithful hU hids hreg hp hA hdir htop hclear)
      fun v hv => ?_
    by_cases hign : v.ignored = true
    · simp only [hign, if_true]
      exact Faithful.pure _
    · simp only [hign, Bool.false_eq_true, if_false]
      refine ignoredAncestor_faithful hU hids hreg hp hA (pre ++ [dir]) dirs
        (by rw [hsplit, List.append_assoc, List.singleton_append]) fun x hx => ?_
      rcases List.mem_append.mp hx with hx | hx
      · exact hpre x hx
      · rw [List.mem_singleton.mp hx, blocks_of_sweepSpec hv]
        simp only [hign, Bool.false_eq_true, if_false]

theorem compute_faithful (hU : VersionsUnique U) (hids : rv.registry.IdsDistinct)
    (hreg : ∀ rs ∈ rv.registry.ruleSets, U rs) {p : PosixPath} (hp : p.Canonical)
    (isDirectory : Bool) :
    Faithful (CacheSound rv.ignoreCase U) (rv.compute true p isDirectory (rv.registry.applicable p))
      (verdictOf rv.ignoreCase p isDirectory (rv.registry.applicable p)) := by
  cases hA : rv.registry.applicable p with
  | nil => exact Faithful.pure _
  | cons top rest =>
    have hpair : (top :: rest).Pairwise RuleSet.Precedes := hA ▸ Registry.pairwise_applicable hids
    have hunder : ∀ rs ∈ top :: rest, p.isUnder rs.baseDir = true :=
      fun rs hrs => (Registry.mem_applicable.mp (hA ▸ hrs)).2
    have hdirs : ∀ dir ∈ (p.parents.takeWhile (· != top.baseDir)).reverse, p.isUnder dir = true :=
      fun dir hdir => ((PosixPath.mem_between (hunder top List.mem_cons_self)).mp hdir).1
    rw [compute, verdictOf, firstIgnored_eq hpair hunder _ hdirs]
    -- the walk starts with no directory passed, and ends in the sweep of `p` if none blocks
    refine Faithful.bind (ignoredAncestor_faithful hU hids hreg hp hA [] _ rfl
      fun _ h => absurd h List.not_mem_nil) fun found _ => ?_
    cases found with
    | some v => exact Faithful.pure v
    | none => exact Faithful.liftMatch _

/-- Resolving through the cache gives the verdict computed without it, and keeps the cache
sound. -/
theorem resolve_faithful (hU : VersionsUnique U) (hids : rv.registry.IdsDistinct)
    (hreg : ∀ rs ∈ rv.registry.ruleSets, U rs) (q : String) (isDirectory : Bool) :
    Faithful (CacheSound rv.ignoreCase U) (rv.resolve q isDirectory true)
      (verdictOf rv.ignoreCase (PosixPath.normalize q) isDirectory
        (rv.registry.applicable (PosixPath.normalize q))) := by
  have hcompute := compute_faithful hU hids hreg (PosixPath.canonical_normalize q) isDirectory
  rw [resolve]
  split
  · rename_i hA
    rw [hA]
    exact Faithful.pure _
  · exact cached_faithful hU (PosixPath.canonical_normalize q)
      (fun rs hrs => hreg rs (Registry.mem_applicable.mp hrs).1) hcompute rfl

end Resolver

/-! ## Sessions -/

namespace Registry

variable {U : RuleSet → Prop} {r : Registry}

theorem mem_upsert {l : List RuleSet} {rs x : RuleSet} (h : x ∈ upsert l rs) : x ∈ l ∨ x = rs := by
  unfold upsert at h
  split at h
  · obtain ⟨y, hy, rfl⟩ := List.mem_map.mp h
    split
    · exact Or.inr rfl
    · exact Or.inl hy
  · rcases List.mem_append.mp h with h | h
    · exact Or.inl h
    · exact Or.inr (List.mem_singleton.mp h)

theorem mem_foldl_upsert {x : RuleSet} :
    ∀ (ruleSets acc : List RuleSet), x ∈ ruleSets.foldl upsert acc → x ∈ acc ∨ x ∈ ruleSets
  | [], _, h => Or.inl h
  | rs :: rest, acc, h => by
    rcases mem_foldl_upsert rest (upsert acc rs) h with h | h
    · rcases mem_upsert h with h | rfl
      · exact Or.inl h
      · exact Or.inr List.mem_cons_self
    · exact Or.inr (List.mem_cons_of_mem rs h)

theorem forall_mem_register (h : ∀ x ∈ r.ruleSets, U x) {rs : RuleSet} (hrs : U rs) :
    ∀ x ∈ (r.register rs).2.ruleSets, U x := by
  intro x hx
  rcases mem_upsert hx with hx | rfl
  · exact h x hx
  · exact hrs

theorem forall_mem_unregister (h : ∀ x ∈ r.ruleSets, U x) (id : String) :
    ∀ x ∈ (r.unregister id).2.ruleSets, U x := by
  unfold unregister
  split
  · exact h
  · exact fun x hx => h x (List.mem_of_mem_filter hx)

theorem forall_mem_replaceAll {ruleSets : List RuleSet} (h : ∀ x ∈ ruleSets, U x) :
    ∀ x ∈ (r.replaceAll ruleSets).2.ruleSets, U x := by
  intro x hx
  rcases mem_foldl_upsert ruleSets [] hx with hx | hx
  · exact absurd hx List.not_mem_nil
  · exact h x hx

end Registry

/-- The registries and caches that a resolver with case sensitivity `ic` reaches from an empty
registry and an empty cache of any capacity: by registry changes with rule sets that may be
registered (`U`), invalidations and clears of the cache, and resolutions with or without it. -/
inductive SessionReachable (ic : Bool) (U : RuleSet → Prop) : Registry → VerdictCache → Prop where
  | start (capacity : Int) : SessionReachable ic U Registry.empty (VerdictCache.empty capacity)
  | register {r : Registry} {c : VerdictCache} (rs : RuleSet) :
      U rs → SessionReachable ic U r c → SessionReachable ic U (r.register rs).2 c
  | unregister {r : Registry} {c : VerdictCache} (id : String) :
      SessionReachable ic U r c → SessionReachable ic U (r.unregister id).2 c
  | replaceAll {r : Registry} {c : VerdictCache} (ruleSets : List RuleSet) :
      (∀ rs ∈ ruleSets, U rs) → SessionReachable ic U r c →
        SessionReachable ic U (r.replaceAll ruleSets).2 c
  | clearRegistry {r : Registry} {c : VerdictCache} :
      SessionReachable ic U r c → SessionReachable ic U r.clear c
  | invalidate {r : Registry} {c : VerdictCache} (id : String) :
      SessionReachable ic U r c → SessionReachable ic U r (c.invalidate id).2
  | clearCache {r : Registry} {c : VerdictCache} :
      SessionReachable ic U r c → SessionReachable ic U r c.clear
  | resolve {r : Registry} {c : VerdictCache} (q : String) (isDirectory useCache : Bool) :
      SessionReachable ic U r c →
        SessionReachable ic U r
          (((({ registry := r, ignoreCase := ic } : Resolver).resolve q isDirectory
            useCache).run.run c).2)

namespace SessionReachable

variable {ic : Bool} {U : RuleSet → Prop} {r : Registry} {c : VerdictCache}

theorem reachable (h : SessionReachable ic U r c) : r.Reachable := by
  induction h with
  | start => exact .empty
  | register rs _ _ ih => exact .register rs ih
  | unregister id _ ih => exact .unregister id ih
  | replaceAll ruleSets _ _ ih => exact .replaceAll ruleSets ih
  | clearRegistry _ ih => exact .clear ih
  | invalidate _ _ ih => exact ih
  | clearCache _ ih => exact ih
  | resolve _ _ _ _ ih => exact ih

theorem forall_mem_ruleSets (h : SessionReachable ic U r c) : ∀ rs ∈ r.ruleSets, U rs := by
  induction h with
  | start => exact fun _ h => absurd h List.not_mem_nil
  | register rs hrs _ ih => exact Registry.forall_mem_register ih hrs
  | unregister id _ ih => exact Registry.forall_mem_unregister ih id
  | replaceAll ruleSets hall _ _ => exact Registry.forall_mem_replaceAll hall
  | clearRegistry _ _ => exact fun _ h => absurd h List.not_mem_nil
  | invalidate _ _ ih => exact ih
  | clearCache _ ih => exact ih
  | resolve _ _ _ _ ih => exact ih

/-- Every cache a resolver reaches is sound. -/
theorem cacheSound (hU : VersionsUnique U) (h : SessionReachable ic U r c) :
    CacheSound ic U c := by
  induction h with
  | start capacity => exact CacheSound.empty capacity
  -- registry changes leave the cache alone: its entries record the versions they were
  -- computed from, and a hit must match the versions of the registry it is asked on
  | register _ _ _ ih => exact ih
  | unregister _ _ ih => exact ih
  | replaceAll _ _ _ ih => exact ih
  | clearRegistry _ ih => exact ih
  | invalidate id _ ih => exact ih.invalidate id
  | clearCache _ _ => exact CacheSound.clear
  | resolve q isDirectory useCache hreach ih =>
    cases useCache with
    | false =>
      -- without the cache, resolving does not touch it
      rw [Resolver.run_resolve_uncached]
      exact ih
    | true =>
      exact (Resolver.resolve_faithful hU hreach.reachable.idsDistinct
        hreach.forall_mem_ruleSets q isDirectory _ ih).2

/-- On every state a resolver reaches, resolving with or without the cache gives the verdict of
the walk over the rule sets that judge the normalised path. -/
theorem resolve_eq_verdictOf (hU : VersionsUnique U) (h : SessionReachable ic U r c) (q : String)
    (isDirectory useCache : Bool) :
    ((({ registry := r, ignoreCase := ic } : Resolver).resolve q isDirectory useCache).run.run c).1 =
      Resolver.verdictOf ic (PosixPath.normalize q) isDirectory
        (r.applicable (PosixPath.normalize q)) := by
  cases useCache with
  | false => rw [Resolver.run_resolve_uncached]
  | true =>
    exact (Resolver.resolve_faithful hU h.reachable.idsDistinct h.forall_mem_ruleSets q isDirectory
      c (h.cacheSound hU)).1

end SessionReachable

/-- The cache is transparent: on every registry and cache that a resolver reaches, resolving a
path through the cache gives what resolving it without the cache gives. -/
theorem resolve_cached_eq_uncached {ic : Bool} {U : RuleSet → Prop} (hU : VersionsUnique U)
    {r : Registry} {c : VerdictCache} (h : SessionReachable ic U r c) (q : String)
    (isDirectory : Bool) :
    ((({ registry := r, ignoreCase := ic } : Resolver).resolve q isDirectory true).run.run c).1 =
      ((({ registry := r, ignoreCase := ic } : Resolver).resolve q isDirectory false).run.run c).1 := by
  rw [h.resolve_eq_verdictOf hU, h.resolve_eq_verdictOf hU]

/-- A query for a directory that the walk of an earlier query stored under its own key. -/
theorem resolve_cached_eq_uncached_stored_directory :
    let rs := RuleSet.ofText 1 "root" (PosixPath.normalize "/repo") "build/\n*.o" Origin.found 100
    let rv : Resolver := { registry := (Registry.empty.register rs).2, ignoreCase := false }
    let c := ((rv.resolve "/repo/build/a/x.o" false true).run.run (VerdictCache.empty 10)).2
    VersionsUnique (· = rs) ∧ SessionReachable false (· = rs) rv.registry c ∧
      ((rv.resolve "/repo/build" true true).run.run c).1 =
        ((rv.resolve "/repo/build" true false).run.run c).1 := by
  intro rs rv c
  have hU : VersionsUnique (· = rs) := fun _ _ ha hb _ _ => ha.trans hb.symm
  have h : SessionReachable false (· = rs) rv.registry c := .resolve _ _ _ (.register _ rfl (.start 10))
  exact ⟨hU, h, resolve_cached_eq_uncached hU h _ _⟩

/-- An ignored directory decides for its whole subtree: on a registry that a resolver reaches, if
resolving a directory ignores it, every path strictly below it gets the same verdict, whatever
negations its rule files hold, each resolution with or without the cache and from any cache
reached on that registry. -/
theorem resolve_below_ignored_directory {ic : Bool} {U : RuleSet → Prop} (hU : VersionsUnique U)
    {r : Registry} {c₁ c₂ : VerdictCache} (h₁ : SessionReachable ic U r c₁)
    (h₂ : SessionReachable ic U r c₂) {dir path : String}
    (hbelow : (PosixPath.normalize path).isUnder (PosixPath.normalize dir) = true)
    (useCache₁ useCache₂ : Bool) {v : Verdict}
    (hv : ((({ registry := r, ignoreCase := ic } : Resolver).resolve dir true
      useCache₁).run.run c₁).1 = .ok v)
    (hign : v.ignored = true) (isDirectory : Bool) :
    ((({ registry := r, ignoreCase := ic } : Resolver).resolve path isDirectory
      useCache₂).run.run c₂).1 = .ok v := by
  rw [h₁.resolve_eq_verdictOf hU] at hv
  rw [h₂.resolve_eq_verdictOf hU]
  exact Resolver.verdictOf_below_ignored h₂.reachable.idsDistinct hbelow hv hign isDirectory

/-- A negation in a rule file inside an ignored directory does not bring a path back. -/
theorem resolve_below_ignored_directory_negated :
    let build : Pattern :=
      { raw := "build/", segments := [.glob "build" [.lit "build"]], anchored := false,
        directoryOnly := true, negated := false, sourceFile := none, lineNumber := 1 }
    let keep : Pattern :=
      { raw := "!keep.o", segments := [.glob "keep.o" [.lit "keep.o"]], anchored := false,
        directoryOnly := false, negated := true, sourceFile := none, lineNumber := 1 }
    let root : RuleSet :=
      { id := "root", baseDir := ⟨"/", ["repo"]⟩, patterns := [build], version := 1,
        origin := Origin.found, errors := [], digest := "" }
    let nested : RuleSet :=
      { id := "nested", baseDir := ⟨"/", ["repo", "build"]⟩, patterns := [keep], version := 2,
        origin := Origin.found, errors := [], digest := "" }
    let rv : Resolver :=
      { registry := ((Registry.empty.register root).2.register nested).2, ignoreCase := false }
    let c := ((rv.resolve "/repo/build" true true).run.run (VerdictCache.empty 10)).2
    VersionsUnique (· ∈ [root, nested]) ∧
      SessionReachable false (· ∈ [root, nested]) rv.registry (VerdictCache.empty 10) ∧
      SessionReachable false (· ∈ [root, nested]) rv.registry c ∧
      (PosixPath.normalize "/repo/build/keep.o").isUnder (PosixPath.normalize "/repo/build") ∧
      ((rv.resolve "/repo/build" true true).run.run (VerdictCache.empty 10)).1 =
        .ok ⟨true, some build⟩ ∧
      ((rv.resolve "/repo/build/keep.o" false false).run.run c).1 = .ok ⟨true, some build⟩ := by
  intro build keep root nested rv c
  have hU : VersionsUnique (· ∈ [root, nested]) := by
    intro a b ha hb hid _
    simp only [List.mem_cons, List.not_mem_nil, or_false] at ha hb
    rcases ha with rfl | rfl <;> rcases hb with rfl | rfl
    all_goals first | rfl | exact absurd hid (by decide)
  have h₁ : SessionReachable false (· ∈ [root, nested]) rv.registry (VerdictCache.empty 10) :=
    .register _ (by simp) (.register _ (by simp) (.start 10))
  have h₂ : SessionReachable false (· ∈ [root, nested]) rv.registry c := .resolve _ _ _ h₁
  have hbelow : (PosixPath.normalize "/repo/build/keep.o").isUnder
      (PosixPath.normalize "/repo/build") = true := by cbv
  have hv : ((rv.resolve "/repo/build" true true).run.run (VerdictCache.empty 10)).1 =
      .ok ⟨true, some build⟩ := by cbv
  exact ⟨hU, h₁, h₂, hbelow, hv,
    resolve_below_ignored_directory hU h₁ h₂ hbelow true false hv rfl false⟩

end IgnoreRules
