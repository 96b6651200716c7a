import IgnoreRules.Proofs.Caching
import IgnoreRules.Proofs.Recency

/-!
# The dependency index is exact where resolutions drive the cache

The index of the verdict cache lists a key under the ids its verdict was stored with
(cache.py:150–198). A store of a key that is already cached replaces the entry and keeps the old
listings, so in general the index may list a key under an id its entry no longer mentions. Resolving
a path never stores such a key: it stores a verdict only after a lookup of that key missed, which
leaves the key uncached, and the verdicts the walk stores on the way belong to proper ancestors of
the path, under other keys.

So on every cache that resolutions, invalidations and clears produce, the index is exact
(`VerdictCache.Exact`): each key listed under an id has an entry that mentions the id, and no key
is listed twice under one id. Invalidating an id then drops only entries that mention it.

- `VerdictCache.Exact`: the invariant. Lookups, stores of uncached keys, invalidations and clears
  keep it.
- `StoresWithin`: a resolution that keeps the index covering and exact, and stores no key outside
  a given set.
- `SessionReachable.index_exact`: every cache a resolver reaches has an exact index.
-/

namespace IgnoreRules

namespace VerdictCache

variable {deps : Index} {key x : CacheKey} {id i : String}

/-! ## Forgetting a key that is listed once -/

theorem lists_nodup_forgetOne (h : ∀ d ∈ deps, d.2.Nodup) (key : CacheKey) (id : String) :
    ∀ d ∈ forgetOne key id deps, d.2.Nodup := by
  intro d hd
  obtain ⟨keys, hkeys, hd⟩ := mem_forgetOne.mp hd
  split at hd
  · rw [hd.1]
    exact (h _ hkeys).erase key
  · rw [hd]
    exact h _ hkeys

theorem lists_nodup_forget (key : CacheKey) :
    ∀ (versions : Versions) {deps : Index}, (∀ d ∈ deps, d.2.Nodup) →
      ∀ d ∈ forget key versions deps, d.2.Nodup
  | [], _, h => h
  | (id, _) :: versions, _, h => lists_nodup_forget key versions (lists_nodup_forgetOne h key id)

theorem lists_nodup_remember (h : ∀ d ∈ deps, d.2.Nodup) (key : CacheKey) (id : String) :
    ∀ d ∈ remember key id deps, d.2.Nodup := by
  unfold remember
  split
  · intro d hd
    obtain ⟨⟨j, keys⟩, hmem, rfl⟩ := List.mem_map.mp hd
    dsimp only
    split
    · rename_i hnew
      -- the key is appended only to a list that lacks it
      have hk : key ∉ keys := (by simpa using hnew : j = id ∧ key ∉ keys).2
      refine List.nodup_append.mpr ⟨h _ hmem, List.nodup_singleton key, fun a ha b hb hab => ?_⟩
      rw [List.mem_singleton.mp hb] at hab
      exact hk (hab ▸ ha)
    · exact h _ hmem
  · intro d hd
    rcases List.mem_append.mp hd with hd | hd
    · exact h d hd
    · rw [List.mem_singleton.mp hd]
      exact List.nodup_singleton key

theorem lists_nodup_foldl_remember (key : CacheKey) :
    ∀ (versions : Versions) {deps : Index}, (∀ d ∈ deps, d.2.Nodup) →
      ∀ d ∈ versions.foldl (fun ds v => remember key v.1 ds) deps, d.2.Nodup
  | [], _, h => h
  | (id, _) :: versions, _, h =>
    lists_nodup_foldl_remember key versions (lists_nodup_remember h key id)

/-- Forgetting a key under an id that lists it once unlists it there. -/
theorem mem_dependents_forgetOne_self (h : WellFormed deps) (hn : ∀ d ∈ deps, d.2.Nodup) :
    key ∈ dependents (forgetOne key id deps) i ↔ i ≠ id ∧ key ∈ dependents deps i := by
  rw [mem_dependents (h.forgetOne key id).ids_nodup, mem_dependents h.ids_nodup]
  constructor
  · rintro ⟨keys, hmem, hk⟩
    obtain ⟨keys₀, hmem₀, hd⟩ := mem_forgetOne.mp hmem
    split at hd
    · rename_i hi
      have herase : key ∈ keys₀.erase key := hd.1 ▸ hk
      exact absurd rfl ((List.Nodup.mem_erase_iff (hn _ hmem₀)).mp herase).1
    · rename_i hi
      exact ⟨hi, keys₀, hmem₀, (show keys = keys₀ from hd) ▸ hk⟩
  · rintro ⟨hi, keys, hmem, hk⟩
    exact ⟨keys, mem_forgetOne.mpr ⟨keys, hmem, by rw [if_neg hi]⟩, hk⟩

/-- Forgetting a key under the ids of some versions unlists it under each of them. -/
theorem mem_dependents_forget_self :
    ∀ (versions : Versions) {deps : Index}, WellFormed deps → (∀ d ∈ deps, d.2.Nodup) →
      (key ∈ dependents (forget key versions deps) i ↔
        i ∉ versions.map (·.1) ∧ key ∈ dependents deps i)
  | [], _, _, _ => ⟨fun hx => ⟨List.not_mem_nil, hx⟩, fun hx => hx.2⟩
  | (id, _) :: versions, _, h, hn => by
    rw [forget_cons, mem_dependents_forget_self versions (h.forgetOne key id)
      (lists_nodup_forgetOne hn key id), mem_dependents_forgetOne_self h hn]
    simp only [List.map_cons, List.mem_cons, not_or]
    exact ⟨fun ⟨hv, hi, hk⟩ => ⟨⟨hi, hv⟩, hk⟩, fun ⟨⟨hi, hv⟩, hk⟩ => ⟨hv, hi, hk⟩⟩

/-! ## Exact indexes -/

/-- Every key the index lists under an id has an entry that mentions the id. -/
def Justified (entries : List CacheEntry) (deps : Index) : Prop :=
  ∀ id x, x ∈ dependents deps id → ∃ e ∈ entries, e.key = x ∧ id ∈ e.versions.map (·.1)

/-- The index is exact: it lists a key under an id only while the entry of the key mentions the
id, and then once. The keys of the entries are distinct and the index is well formed. -/
structure Exact (c : VerdictCache) : Prop where
  keys_nodup : (c.entries.map (·.key)).Nodup
  index : WellFormed c.deps
  lists_nodup : ∀ d ∈ c.deps, d.2.Nodup
  justified : Justified c.entries c.deps

theorem Justified.mono {entries entries' : List CacheEntry} (h : Justified entries deps)
    (hsub : ∀ e ∈ entries, e ∈ entries') : Justified entries' deps := by
  intro id x hx
  obtain ⟨e, he, hk, hid⟩ := h id x hx
  exact ⟨e, hsub e he, hk, hid⟩

/-- Dropping an entry and forgetting its key under the ids it mentions keeps the listings
justified: the entry was the only one of its key, so the index listed the key nowhere else. -/
theorem Justified.drop {entries rest : List CacheEntry} {e : CacheEntry}
    (h : Justified entries deps) (hkeys : (entries.map (·.key)).Nodup) (hwf : WellFormed deps)
    (hn : ∀ d ∈ deps, d.2.Nodup) (he : e ∈ entries)
    (hrest : ∀ e' ∈ entries, e'.key ≠ e.key → e' ∈ rest) :
    Justified rest (forget e.key e.versions deps) := by
  intro id x hx
  by_cases hxe : x = e.key
  · subst hxe
    obtain ⟨hid, hlisted⟩ := (mem_dependents_forget_self e.versions hwf hn).mp hx
    obtain ⟨e', he', hk, hid'⟩ := h id e.key hlisted
    have hsame : e' = e := List.inj_on_of_nodup_map hkeys he' he hk
    exact absurd (hsame ▸ hid') hid
  · obtain ⟨e', he', hk, hid'⟩ := h id x ((mem_dependents_forget hxe e.versions hwf).mp hx)
    exact ⟨e', hrest e' he' (hk ▸ hxe), hk, hid'⟩

variable {c : VerdictCache}

theorem Exact.empty (capacity : Int) : (VerdictCache.empty capacity).Exact :=
  ⟨List.nodup_nil, WellFormed.nil, fun _ h => absurd h List.not_mem_nil,
    fun _ _ hx => absurd hx (by simp [dependents, VerdictCache.empty])⟩

theorem Exact.clear (c : VerdictCache) : c.clear.Exact := Exact.empty c.capacity

theorem Exact.get (h : c.Exact) (key : CacheKey) (current : Versions) :
    (c.get key current).2.Exact := by
  unfold VerdictCache.get
  split
  · exact h
  · split
    · exact ⟨h.keys_nodup, h.index, h.lists_nodup, h.justified⟩
    · rename_i e hfind
      have he : e ∈ c.entries := List.mem_of_find?_eq_some hfind
      have hkey : e.key = key := by simpa using List.find?_some hfind
      split
      · -- a hit moves the entry last: the entries are the same
        refine ⟨hkey ▸ nodup_keys_filter_append h.keys_nodup e, h.index, h.lists_nodup,
          h.justified.mono fun e' he' => ?_⟩
        by_cases hk : e'.key = key
        · have hsame : e' = e := List.inj_on_of_nodup_map h.keys_nodup he' he (hk.trans hkey.symm)
          exact List.mem_append_right _ (List.mem_singleton.mpr hsame)
        · exact List.mem_append_left _ (List.mem_filter.mpr ⟨he', bne_iff_ne.mpr hk⟩)
      · -- a stale entry goes with every listing of its key
        rw [← hkey]
        exact ⟨nodup_keys_filter h.keys_nodup e.key, h.index.forget e.key e.versions,
          lists_nodup_forget e.key e.versions h.lists_nodup,
          h.justified.drop h.keys_nodup h.index h.lists_nodup he fun e' he' hne =>
            List.mem_filter.mpr ⟨he', bne_iff_ne.mpr hne⟩⟩

/-- Storing a key that is not cached keeps the index exact: the key was listed nowhere, and is
now listed under the ids of its versions. -/
theorem Exact.put (h : c.Exact) (hkey : key ∉ c.entries.map (·.key)) (verdict : Verdict)
    (versions : Versions) : (c.put key verdict versions).Exact := by
  unfold VerdictCache.put
  split
  · exact h
  · dsimp only
    obtain ⟨hwf, hmem⟩ := foldl_remember key versions h.index
    have hn := lists_nodup_foldl_remember key versions h.lists_nodup
    have hnodup := nodup_keys_filter_append h.keys_nodup ⟨key, verdict, versions⟩
    have hjust : Justified (c.entries.filter (·.key != key) ++ [⟨key, verdict, versions⟩])
        (versions.foldl (fun ds v => remember key v.1 ds) c.deps) := by
      intro id x hx
      rcases (hmem x id).mp hx with hx | ⟨hid, hxkey⟩
      · obtain ⟨e, he, hk, hid⟩ := h.justified id x hx
        have hne : e.key ≠ key := fun hk' => hkey (hk' ▸ List.mem_map_of_mem he)
        exact ⟨e, List.mem_append_left _ (List.mem_filter.mpr ⟨he, bne_iff_ne.mpr hne⟩), hk, hid⟩
      · exact ⟨⟨key, verdict, versions⟩, List.mem_append_right _ (List.mem_singleton_self _),
          hxkey.symm, hid⟩
    split
    · split
      · -- the least recently used entry is evicted with every listing of its key
        rename_i oldest rest hsplit
        rw [hsplit] at hjust hnodup
        exact ⟨List.Nodup.of_cons hnodup, hwf.forget oldest.key oldest.versions,
          lists_nodup_forget oldest.key oldest.versions hn,
          hjust.drop hnodup hwf hn List.mem_cons_self fun e' he' hne =>
            (List.mem_cons.mp he').resolve_left fun hsame => hne (hsame ▸ rfl)⟩
      · exact ⟨hnodup, hwf, hn, hjust⟩
    · exact ⟨hnodup, hwf, hn, hjust⟩

/-- One step of an invalidation drops the entry of its key with every listing of the key. -/
theorem Exact.dropKey {acc : Nat × VerdictCache} (h : acc.2.Exact) (key : CacheKey) :
    (VerdictCache.dropKey acc key).2.Exact := by
  unfold VerdictCache.dropKey
  split
  · rename_i e hfind
    have he : e ∈ acc.2.entries := List.mem_of_find?_eq_some hfind
    have hkey : e.key = key := by simpa using List.find?_some hfind
    subst hkey
    exact ⟨nodup_keys_filter h.keys_nodup e.key, h.index.forget e.key e.versions,
      lists_nodup_forget e.key e.versions h.lists_nodup,
      h.justified.drop h.keys_nodup h.index h.lists_nodup he fun e' he' hne =>
        List.mem_filter.mpr ⟨he', bne_iff_ne.mpr hne⟩⟩
  · exact h

theorem Exact.dropKeys :
    ∀ (keys : List CacheKey) {acc : Nat × VerdictCache}, acc.2.Exact →
      (keys.foldl VerdictCache.dropKey acc).2.Exact
  | [], _, h => h
  | key :: keys, _, h => Exact.dropKeys keys (h.dropKey key)

theorem Exact.invalidate (h : c.Exact) (id : String) : (c.invalidate id).2.Exact := by
  rw [invalidate_eq]
  -- dropping the id from the index first only removes listings
  exact Exact.dropKeys _ ⟨h.keys_nodup, h.index.filter id,
    fun d hd => h.lists_nodup d (List.mem_filter.mp hd).1,
    fun i x hx => h.justified i x ((mem_dependents_filter h.index).mp hx).2⟩

/-! ## Invalidating several ids -/

/-- An invalidation unlists its id, and lists every key it does not drop where it was listed. -/
theorem Covers.mem_dependents_invalidate (h : c.Covers) (hx : x ∉ dependents c.deps id)
    (i : String) :
    x ∈ dependents (c.invalidate id).2.deps i ↔ i ≠ id ∧ x ∈ dependents c.deps i := by
  rw [invalidate_eq]
  obtain ⟨-, -, -, hdeps⟩ := foldl_dropKey (dependents c.deps id)
    (0, { c with deps := c.deps.filter (·.1 != id) }) h.keys_nodup (h.index.filter id)
  rw [hdeps x hx i]
  exact mem_dependents_filter h.index

/-- Invalidating ids one after another keeps exactly the entries whose key none of them lists. -/
theorem Covers.mem_foldl_invalidate : ∀ (ids : List String) {c : VerdictCache}, c.Covers →
    ∀ e, e ∈ (ids.foldl (fun c id => (c.invalidate id).2) c).entries ↔
      e ∈ c.entries ∧ ∀ id ∈ ids, e.key ∉ dependents c.deps id
  | [], _, _, e => by simp
  | id :: ids, c, h, e => by
    obtain ⟨hmem, -, hcov⟩ := h.invalidate_spec id
    rw [List.foldl_cons, Covers.mem_foldl_invalidate ids hcov e, hmem]
    constructor
    · rintro ⟨⟨he, hid⟩, hrest⟩
      refine ⟨he, fun i hi hlisted => ?_⟩
      -- a key the first invalidation keeps stays listed under every other id
      by_cases hii : i = id
      · exact hid (hii ▸ hlisted)
      · exact hrest i ((List.mem_cons.mp hi).resolve_left hii)
          ((h.mem_dependents_invalidate hid i).mpr ⟨hii, hlisted⟩)
    · rintro ⟨he, hall⟩
      have hid := hall id List.mem_cons_self
      exact ⟨⟨he, hid⟩, fun i hi hlisted =>
        hall i (List.mem_cons_of_mem id hi) ((h.mem_dependents_invalidate hid i).mp hlisted).2⟩

/-- A lookup that misses on an enabled cache leaves its key uncached. -/
theorem not_mem_get_of_miss (hc : 0 < c.capacity) {current : Versions}
    (hmiss : (c.get key current).1 = none) : key ∉ (c.get key current).2.entries.map (·.key) := by
  cases hfind : c.entries.find? (·.key == key) with
  | none =>
    have hnot := find?_key_eq_none_iff.mp hfind
    rw [get_of_not_mem hc hnot]
    exact hnot
  | some e =>
    by_cases hv : e.versions = current
    · rw [get_of_found hc hfind hv] at hmiss
      cases hmiss
    · obtain ⟨deps, hget⟩ := get_of_stale hc hfind hv
      rw [hget]
      simp

/-- A lookup caches no key it did not have. -/
theorem not_mem_get_entries {current : Versions} (hx : x ∉ c.entries.map (·.key)) :
    x ∉ (c.get key current).2.entries.map (·.key) := by
  intro hmem
  obtain ⟨e, he, rfl⟩ := List.mem_map.mp hmem
  exact hx (List.mem_map_of_mem (mem_get_entries he))

end VerdictCache

/-! ## Resolutions that store only certain keys -/

open VerdictCache

/-- A resolution stores only keys of `K`: run on a cache whose index covers it and is exact, it
leaves such a cache of the same capacity, where each key that was not cached before is still
uncached unless it is of `K`. -/
def StoresWithin {α : Type} (K : CacheKey → Prop) (r : Resolution α) : Prop :=
  ∀ c : VerdictCache, c.Covers → c.Exact →
    (r.run.run c).2.Covers ∧ (r.run.run c).2.Exact ∧ (r.run.run c).2.capacity = c.capacity ∧
      ∀ x, x ∉ c.entries.map (·.key) → ¬ K x → x ∉ (r.run.run c).2.entries.map (·.key)

namespace StoresWithin

variable {α β : Type} {K K' : CacheKey → Prop}

theorem pure (a : α) : StoresWithin K (Pure.pure a) :=
  fun _ hcov hex => ⟨hcov, hex, rfl, fun _ hx _ => hx⟩

theorem liftMatch (x : Except MatchError α) : StoresWithin K (Resolver.liftMatch x) := by
  intro c hcov hex
  rw [run_liftMatch]
  exact ⟨hcov, hex, rfl, fun _ hx _ => hx⟩

theorem mono {r : Resolution α} (h : StoresWithin K r) (hK : ∀ x, K x → K' x) :
    StoresWithin K' r := by
  intro c hcov hex
  obtain ⟨hcov', hex', hcap, hkeys⟩ := h c hcov hex
  exact ⟨hcov', hex', hcap, fun x hx hK' => hkeys x hx fun hKx => hK' (hK x hKx)⟩

theorem bind {r : Resolution α} {f : α → Resolution β} (hr : StoresWithin K r)
    (hf : ∀ a, StoresWithin K (f a)) : StoresWithin K (r >>= f) := by
  intro c hcov hex
  obtain ⟨hcov₁, hex₁, hcap₁, hkeys₁⟩ := hr c hcov hex
  rw [run_bind]
  rcases hrun : r.run.run c with ⟨_ | a, c₁⟩
  · rw [hrun] at hcov₁ hex₁ hcap₁ hkeys₁
    exact ⟨hcov₁, hex₁, hcap₁, hkeys₁⟩
  · rw [hrun] at hcov₁ hex₁ hcap₁ hkeys₁
    obtain ⟨hcov₂, hex₂, hcap₂, hkeys₂⟩ := hf a c₁ hcov₁ hex₁
    exact ⟨hcov₂, hex₂, hcap₂.trans hcap₁, fun x hx hK => hkeys₂ x (hkeys₁ x hx hK) hK⟩

end StoresWithin

namespace Resolver

/-- Looking a key up and storing what the computation gives on a miss stores the key and what the
computation stores; the computation must not store the key itself, which the miss left
uncached. -/
theorem cached_storesWithin {K : CacheKey → Prop} {key : CacheKey} (hkey : ¬ K key)
    (versions : Versions) {compute : Resolution Verdict} (hcompute : StoresWithin K compute) :
    StoresWithin (fun x => x = key ∨ K x) (cached true key versions compute) := by
  intro c hcov hex
  rw [run_cached_true]
  cases hfound : (c.get key versions).1 with
  | some v =>
    exact ⟨hcov.get key versions, hex.get key versions, capacity_get,
      fun x hx _ => not_mem_get_entries hx⟩
  | none =>
    obtain ⟨hcov₁, hex₁, hcap₁, hkeys₁⟩ := hcompute _ (hcov.get key versions) (hex.get key versions)
    rcases hrun : compute.run.run (c.get key versions).2 with ⟨_ | v, c'⟩
    · rw [hrun] at hcov₁ hex₁ hcap₁ hkeys₁
      exact ⟨hcov₁, hex₁, hcap₁.trans capacity_get,
        fun x hx hK => hkeys₁ x (not_mem_get_entries hx) fun hKx => hK (Or.inr hKx)⟩
    · rw [hrun] at hcov₁ hex₁ hcap₁ hkeys₁
      have hcap : c'.capacity = c.capacity := hcap₁.trans capacity_get
      have hkeys' : ∀ x, x ∉ c.entries.map (·.key) → ¬ (x = key ∨ K x) →
          x ∉ c'.entries.map (·.key) :=
        fun x hx hK => hkeys₁ x (not_mem_get_entries hx) fun hKx => hK (Or.inr hKx)
      dsimp only
      by_cases hon : 0 < c.capacity
      · -- the miss left the key uncached, and the computation stored other keys only
        have hnew : key ∉ c'.entries.map (·.key) := hkeys₁ key (not_mem_get_of_miss hon hfound) hkey
        refine ⟨hcov₁.put key v versions, hex₁.put hnew v versions, capacity_put.trans hcap,
          fun x hx hK hmem => ?_⟩
        obtain ⟨e, he, rfl⟩ := List.mem_map.mp hmem
        rcases mem_put_entries he with he | rfl
        · exact hkeys' e.key hx hK (List.mem_map_of_mem he)
        · exact hK (Or.inl rfl)
      · -- a cache of no capacity stores nothing
        have hoff : c'.capacity ≤ 0 := by omega
        rw [put_of_capacity_nonpos hoff]
        exact ⟨hcov₁, hex₁, hcap, hkeys'⟩

variable (rv : Resolver)

theorem directoryVerdict_storesWithin (dir : PosixPath) (ruleSets : List RuleSet) :
    StoresWithin (· = (dir.toString, true)) (rv.directoryVerdict true dir ruleSets) :=
  (cached_storesWithin (K := fun _ => False) id _ (StoresWithin.liftMatch _)).mono
    fun _ hx => hx.resolve_right id

/-- The walk over directories stores only their verdicts. -/
theorem ignoredAncestor_storesWithin (ruleSets : List RuleSet) :
    ∀ dirs : List PosixPath, StoresWithin (fun x => ∃ d ∈ dirs, x = (d.toString, true))
      (rv.ignoredAncestor true ruleSets dirs)
  | [] => StoresWithin.pure none
  | dir :: dirs => by
    have hdir : StoresWithin (fun x => ∃ d ∈ dir :: dirs, x = (d.toString, true))
        (rv.directoryVerdict true dir (ruleSets.takeWhile (·.baseDir.depth < dir.depth))) :=
      (rv.directoryVerdict_storesWithin dir _).mono fun x hx => ⟨dir, List.mem_cons_self, hx⟩
    have hrest : StoresWithin (fun x => ∃ d ∈ dir :: dirs, x = (d.toString, true))
        (rv.ignoredAncestor true ruleSets dirs) :=
      (ignoredAncestor_storesWithin ruleSets dirs).mono fun x ⟨d, hd, hx⟩ =>
        ⟨d, List.mem_cons_of_mem dir hd, hx⟩
    rw [ignoredAncestor]
    refine hdir.bind fun v => ?_
    split
    · exact StoresWithin.pure _
    · exact hrest

/-- Computing the verdict of a path stores only verdicts of its proper ancestors. -/
theorem compute_storesWithin (p : PosixPath) (isDirectory : Bool) (ruleSets : List RuleSet) :
    StoresWithin (fun x => ∃ d ∈ p.parents, x = (d.toString, true))
      (rv.compute true p isDirectory ruleSets) := by
  cases ruleSets with
  | nil => exact StoresWithin.pure _
  | cons top rest =>
    rw [compute]
    have hwalk : StoresWithin (fun x => ∃ d ∈ p.parents, x = (d.toString, true))
        (rv.ignoredAncestor true (top :: rest) (p.parents.takeWhile (· != top.baseDir)).reverse) :=
      (rv.ignoredAncestor_storesWithin (top :: rest) _).mono fun _ hx => hx.imp fun _ hd =>
        ⟨(List.takeWhile_sublist _).subset (List.mem_reverse.mp hd.1), hd.2⟩
    refine hwalk.bind fun found => ?_
    cases found with
    | some v => exact StoresWithin.pure v
    | none => exact StoresWithin.liftMatch _

/-- A canonical path has another text than each of its proper ancestors. -/
theorem key_ne_of_mem_parents {p d : PosixPath} (hp : p.Canonical) (hd : d ∈ p.parents)
    (isDirectory : Bool) : (p.toString, isDirectory) ≠ (d.toString, true) := by
  intro h
  have hpd : p = d := PosixPath.toString_injective hp (hp.of_mem_parents hd) (Prod.mk.inj h).1
  subst hpd
  exact Nat.lt_irrefl _ (PosixPath.depth_lt_of_isUnder (PosixPath.mem_parents.mp hd))

/-- Resolving through the cache keeps its index covering and exact. -/
theorem resolve_storesWithin (q : String) (isDirectory : Bool) :
    StoresWithin (fun _ => True) (rv.resolve q isDirectory true) := by
  rw [resolve]
  split
  · exact StoresWithin.pure _
  · -- the path's own key is none of its ancestors' keys
    have hkey : ¬ (∃ d ∈ (PosixPath.normalize q).parents, ((PosixPath.normalize q).toString,
        isDirectory) = (d.toString, true)) := fun hx => hx.elim fun _ hd =>
      key_ne_of_mem_parents (PosixPath.canonical_normalize q) hd.1 isDirectory hd.2
    exact (cached_storesWithin hkey _ (rv.compute_storesWithin _ isDirectory _)).mono
      fun _ _ => trivial

end Resolver

/-- On every cache a resolver reaches, the index covers the cache and is exact. -/
theorem SessionReachable.index_exact {ic : Bool} {U : RuleSet → Prop} {r : Registry}
    {c : VerdictCache} (h : SessionReachable ic U r c) : c.Covers ∧ c.Exact := by
  induction h with
  | start capacity => exact ⟨Covers.empty capacity, Exact.empty capacity⟩
  -- registry changes leave the cache alone
  | register _ _ _ ih => exact ih
  | unregister _ _ ih => exact ih
  | replaceAll _ _ _ ih => exact ih
  | clearRegistry _ ih => exact ih
  | invalidate id _ ih => exact ⟨(ih.1.invalidate_spec id).2.2, ih.2.invalidate id⟩
  | clearCache _ _ => exact ⟨Covers.clear _, Exact.clear _⟩
  | resolve q isDirectory useCache _ ih =>
    cases useCache with
    | false =>
      rw [Resolver.run_resolve_uncached]
      exact ih
    | true =>
      obtain ⟨hcov, hex, -, -⟩ := Resolver.resolve_storesWithin _ q isDirectory _ ih.1 ih.2
      exact ⟨hcov, hex⟩

end IgnoreRules
