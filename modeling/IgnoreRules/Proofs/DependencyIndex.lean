import IgnoreRules.Cache
import Mathlib.Data.List.Nodup

/-!
# The dependency index of the verdict cache

The cache keeps, for each rule set id, the keys of the verdicts stored with a version of it
(cache.py:108–198), so that invalidating an id drops its verdicts. The index is kept by four paths:
a store remembers its key under each id of its versions, an eviction and a stale lookup forget the
key of the entry they drop, and an invalidation drops the id and forgets each key it drops.

On every cache these produce, the index covers the cache (`VerdictCache.Covers`): each entry is
listed under every id its versions mention, no id is listed with no key, and each key is stored
once. An invalidation then drops exactly the entries of the keys listed under the id, every entry
that mentions the id among them, and counts them (`invalidate_drops_listed_entries`).

The index is not exact. Storing a key again under other rule sets replaces its entry without
forgetting the key under the ids of the entry replaced, so it stays listed there, and
invalidating one of those ids drops the new entry too.

- `VerdictCache.dependents`: the keys the index lists under an id.
- `VerdictCache.WellFormed`: an index that lists each id once and never with no key.
- `VerdictCache.Covers`, `VerdictCache.Reachable.covers`.
-/

namespace IgnoreRules

namespace VerdictCache

/-- The dependency index: the keys listed under each rule set id. -/
abbrev Index := List (String × List CacheKey)

/-- The keys the index lists under a rule set id; the ones `invalidate` drops. -/
def dependents (deps : Index) (id : String) : List CacheKey :=
  ((deps.find? (·.1 == id)).map (·.2)).getD []

/-- Removes a key from the index under one id, dropping the id when no key is left. -/
def forgetOne (key : CacheKey) (id : String) (deps : Index) : Index :=
  deps.filterMap fun (i, keys) =>
    if i == id then
      let keys := keys.erase key
      if keys.isEmpty then none else some (i, keys)
    else some (i, keys)

theorem forget_cons (key : CacheKey) (id : String) (v : Int) (versions : Versions) (deps : Index) :
    forget key ((id, v) :: versions) deps = forget key versions (forgetOne key id deps) := rfl

/-- An index lists each id once and never with no key. -/
structure WellFormed (deps : Index) : Prop where
  ids_nodup : (deps.map (·.1)).Nodup
  nonempty : ∀ d ∈ deps, d.2 ≠ []

variable {deps : Index} {key x : CacheKey} {id i : String}

theorem mem_dependents (h : (deps.map (·.1)).Nodup) :
    x ∈ dependents deps i ↔ ∃ keys, (i, keys) ∈ deps ∧ x ∈ keys := by
  unfold dependents
  cases hfind : deps.find? (·.1 == i) with
  | none =>
    simp only [Option.map_none, Option.getD_none, List.not_mem_nil, false_iff, not_exists, not_and]
    intro keys hmem _
    simpa using List.find?_eq_none.mp hfind _ hmem
  | some d =>
    have hd : d.1 = i := by simpa using List.find?_some hfind
    have hmem := List.mem_of_find?_eq_some hfind
    simp only [Option.map_some, Option.getD_some]
    constructor
    · exact fun hx => ⟨d.2, hd ▸ hmem, hx⟩
    · rintro ⟨keys, hk, hx⟩
      have := List.inj_on_of_nodup_map h hk hmem hd.symm
      exact this ▸ hx

theorem dependents_cons (j : String) (keys : List CacheKey) (rest : Index) (i : String) :
    dependents ((j, keys) :: rest) i = if j = i then keys else dependents rest i := by
  by_cases hj : j = i <;> simp [dependents, hj]

/-- An id the index does not list has no keys. -/
theorem dependents_eq_nil (h : i ∉ deps.map (·.1)) : dependents deps i = [] := by
  induction deps with
  | nil => rfl
  | cons d rest ih =>
    obtain ⟨k, ks⟩ := d
    simp only [List.map_cons, List.mem_cons, not_or] at h
    rw [dependents_cons, if_neg (Ne.symm h.1), ih h.2]

/-- Changing the keys of each id in place: the keys of an id are what the change makes of them. -/
theorem dependents_map {g : String × List CacheKey → String × List CacheKey}
    (hg : ∀ d, (g d).1 = d.1) (deps : Index) (i : String) :
    dependents (deps.map g) i = ((deps.find? (·.1 == i)).map fun d => (g d).2).getD [] := by
  unfold dependents
  rw [List.find?_map]
  have hsame : ((·.1 == i) ∘ g) = (·.1 == i) := funext fun d => by simp [hg]
  rw [hsame]
  cases deps.find? (·.1 == i) <;> rfl

theorem dependents_append_single (deps : Index) (j : String) (keys : List CacheKey) (i : String) :
    dependents (deps ++ [(j, keys)]) i =
      if i ∈ deps.map (·.1) then dependents deps i else if j = i then keys else [] := by
  induction deps with
  | nil => by_cases hj : j = i <;> simp [dependents, hj]
  | cons d rest ih =>
    obtain ⟨k, ks⟩ := d
    rw [List.cons_append, dependents_cons, dependents_cons, ih]
    by_cases hk : k = i
    · simp [hk]
    · simp only [List.map_cons, List.mem_cons, Ne.symm hk, false_or, if_neg hk]

theorem not_mem_ids_of_find? (h : deps.find? (·.1 == id) = none) : id ∉ deps.map (·.1) := by
  intro hmem
  obtain ⟨d, hd, hdid⟩ := List.mem_map.mp hmem
  exact absurd (List.find?_eq_none.mp h d hd) (by simp [hdid])

/-- Remembering a key under an id lists it there, once. -/
theorem dependents_remember (deps : Index) (key : CacheKey) (id i : String) :
    dependents (remember key id deps) i =
      if i = id ∧ key ∉ dependents deps i then dependents deps i ++ [key] else dependents deps i := by
  unfold remember
  split
  · rename_i d hfind
    rw [dependents_map (fun ⟨j, ks⟩ => by simp only; split <;> rfl)]
    cases hi : deps.find? (·.1 == i) with
    | none =>
      have hempty : dependents deps i = [] := by simp [dependents, hi]
      -- the id is listed, so `i` is another id
      have hne : i ≠ id := by
        rintro rfl
        simp [hi] at hfind
      simp [hempty, hne]
    | some e =>
      obtain ⟨j, ks⟩ := e
      have hj : j = i := by simpa using List.find?_some hi
      subst hj
      have hdep : dependents deps j = ks := by simp [dependents, hi]
      rw [hdep]
      by_cases hid : j = id
      · by_cases hkey : key ∈ ks <;> simp [hid, hkey]
      · simp [hid]
  · rename_i hfind
    have hnot : id ∉ deps.map (·.1) := by
      intro hmem
      obtain ⟨d, hd, hdid⟩ := List.mem_map.mp hmem
      exact absurd (List.find?_eq_none.mp hfind d hd) (by simp [hdid])
    rw [dependents_append_single]
    by_cases hi : i = id
    · subst hi
      rw [if_neg hnot, if_pos rfl, dependents_eq_nil hnot, if_pos ⟨rfl, List.not_mem_nil⟩]
      rfl
    · rw [if_neg (show ¬(i = id ∧ key ∉ dependents deps i) from fun h => hi h.1)]
      by_cases hmem : i ∈ deps.map (·.1)
      · rw [if_pos hmem]
      · rw [if_neg hmem, if_neg (Ne.symm hi), dependents_eq_nil hmem]

theorem forgetOne_cons (key : CacheKey) (id j : String) (keys : List CacheKey) (rest : Index) :
    forgetOne key id ((j, keys) :: rest) =
      if j = id then
        (if (keys.erase key).isEmpty then forgetOne key id rest
         else (j, keys.erase key) :: forgetOne key id rest)
      else (j, keys) :: forgetOne key id rest := by
  by_cases hj : j = id
  · subst hj
    by_cases he : (keys.erase key).isEmpty = true
    · simp only [forgetOne, List.filterMap_cons, beq_self_eq_true, he, if_true]
    · simp only [forgetOne, List.filterMap_cons, beq_self_eq_true, he, if_true, if_false,
        Bool.false_eq_true]
  · have hj' : (j == id) = false := beq_eq_false_iff_ne.mpr hj
    simp only [forgetOne, List.filterMap_cons, hj', hj, if_false, Bool.false_eq_true]

/-- Forgetting a key lists no id that was not listed. -/
theorem ids_forgetOne_sublist (key : CacheKey) (id : String) :
    ∀ deps : Index, List.Sublist ((forgetOne key id deps).map (·.1)) (deps.map (·.1))
  | [] => List.Sublist.slnil
  | (j, keys) :: rest => by
    have ih := ids_forgetOne_sublist key id rest
    rw [forgetOne_cons]
    split
    · split
      · exact ih.cons _
      · exact ih.cons_cons _
    · exact ih.cons_cons _

theorem mem_forgetOne {d : String × List CacheKey} :
    d ∈ forgetOne key id deps ↔ ∃ keys, (d.1, keys) ∈ deps ∧
      if d.1 = id then d.2 = keys.erase key ∧ d.2 ≠ [] else d.2 = keys := by
  obtain ⟨i, ks⟩ := d
  simp only [forgetOne, List.mem_filterMap]
  constructor
  · rintro ⟨⟨j, keys⟩, hmem, hf⟩
    by_cases hj : j = id
    · subst hj
      by_cases he : (keys.erase key).isEmpty = true
      · simp [he] at hf
      · simp only [beq_self_eq_true, if_true, he, Bool.false_eq_true, if_false,
          Option.some.injEq, Prod.mk.injEq] at hf
        obtain ⟨rfl, rfl⟩ := hf
        refine ⟨keys, hmem, ?_⟩
        rw [if_pos rfl]
        exact ⟨rfl, fun hnil => he (by simp [hnil])⟩
    · simp only [beq_eq_false_iff_ne.mpr hj, Bool.false_eq_true, if_false, Option.some.injEq,
        Prod.mk.injEq] at hf
      obtain ⟨rfl, rfl⟩ := hf
      exact ⟨keys, hmem, by rw [if_neg hj]⟩
  · rintro ⟨keys, hmem, hk⟩
    refine ⟨(i, keys), hmem, ?_⟩
    split at hk
    · rename_i hi
      obtain ⟨rfl, hne⟩ := hk
      have he : (keys.erase key).isEmpty = false := by simpa using hne
      subst hi
      simp only [beq_self_eq_true, if_true, he, Bool.false_eq_true, if_false]
    · rename_i hi
      subst hk
      simp only [beq_eq_false_iff_ne.mpr hi, Bool.false_eq_true, if_false]

theorem WellFormed.forgetOne (h : WellFormed deps) (key : CacheKey) (id : String) :
    WellFormed (forgetOne key id deps) := by
  refine ⟨(ids_forgetOne_sublist key id deps).nodup h.ids_nodup, fun d hd => ?_⟩
  obtain ⟨keys, hkeys, hd⟩ := mem_forgetOne.mp hd
  split at hd
  · exact hd.2
  · exact hd ▸ h.nonempty _ hkeys

theorem WellFormed.nil : WellFormed [] := ⟨List.nodup_nil, fun _ h => absurd h List.not_mem_nil⟩

/-- Forgetting a key under an id keeps every other key where it was listed. -/
theorem mem_dependents_forgetOne (h : WellFormed deps) (hx : x ≠ key) :
    x ∈ dependents (forgetOne key id deps) i ↔ x ∈ dependents deps i := by
  rw [mem_dependents (h.forgetOne key id).ids_nodup, mem_dependents h.ids_nodup]
  constructor
  · rintro ⟨keys, hmem, hxk⟩
    obtain ⟨keys₀, hmem₀, hk⟩ := mem_forgetOne.mp hmem
    refine ⟨keys₀, hmem₀, ?_⟩
    split at hk
    · exact List.mem_of_mem_erase ((show keys = keys₀.erase key from hk.1) ▸ hxk)
    · exact (show keys = keys₀ from hk) ▸ hxk
  · rintro ⟨keys, hmem, hxk⟩
    by_cases hi : i = id
    · have hxe : x ∈ keys.erase key := (List.mem_erase_of_ne hx).mpr hxk
      exact ⟨keys.erase key, mem_forgetOne.mpr ⟨keys, hmem, by
        rw [if_pos hi]; exact ⟨rfl, List.ne_nil_of_mem hxe⟩⟩, hxe⟩
    · exact ⟨keys, mem_forgetOne.mpr ⟨keys, hmem, by rw [if_neg hi]⟩, hxk⟩

theorem WellFormed.forget (key : CacheKey) :
    ∀ (versions : Versions) {deps : Index}, WellFormed deps → WellFormed (forget key versions deps)
  | [], _, h => h
  | (id, _) :: versions, _, h => WellFormed.forget key versions (h.forgetOne key id)

/-- Forgetting a key keeps every other key where it was listed. -/
theorem mem_dependents_forget (hx : x ≠ key) :
    ∀ (versions : Versions) {deps : Index}, WellFormed deps →
      (x ∈ dependents (forget key versions deps) i ↔ x ∈ dependents deps i)
  | [], _, _ => Iff.rfl
  | (id, _) :: versions, _, h => by
    rw [forget_cons, mem_dependents_forget hx versions (h.forgetOne key id),
      mem_dependents_forgetOne h hx]

theorem WellFormed.remember (h : WellFormed deps) (key : CacheKey) (id : String) :
    WellFormed (remember key id deps) := by
  unfold VerdictCache.remember
  split
  · -- the keys of each id change in place
    have hfst : (deps.map fun (i, keys) =>
        if i == id && !keys.contains key then (i, keys ++ [key]) else (i, keys)).map (·.1) =
        deps.map (·.1) := by
      rw [List.map_map]
      exact List.map_congr_left fun ⟨i, keys⟩ _ => by simp only [Function.comp]; split <;> rfl
    refine ⟨hfst ▸ h.ids_nodup, fun d hd => ?_⟩
    obtain ⟨⟨i, keys⟩, hmem, rfl⟩ := List.mem_map.mp hd
    have hne := h.nonempty _ hmem
    dsimp only
    split
    · simp
    · exact hne
  · rename_i hfind
    have hnot := not_mem_ids_of_find? hfind
    refine ⟨?_, fun d hd => ?_⟩
    · rw [List.map_append, List.nodup_append]
      refine ⟨h.ids_nodup, List.nodup_singleton _, fun a ha b hb hab => ?_⟩
      simp only [List.map_cons, List.map_nil, List.mem_singleton] at hb
      exact hnot (hb ▸ hab ▸ ha)
    · rcases List.mem_append.mp hd with hd | hd
      · exact h.nonempty d hd
      · rw [List.mem_singleton] at hd
        subst hd
        simp

/-- Remembering a key under an id lists it there and changes nothing else. -/
theorem mem_dependents_remember :
    x ∈ dependents (remember key id deps) i ↔ x ∈ dependents deps i ∨ (i = id ∧ x = key) := by
  rw [dependents_remember]
  split
  · rename_i hnew
    simp [hnew.1]
  · rename_i hold
    constructor
    · exact Or.inl
    · rintro (hx | ⟨rfl, rfl⟩)
      · exact hx
      · by_contra hx
        exact hold ⟨rfl, hx⟩

theorem WellFormed.filter (h : WellFormed deps) (id : String) :
    WellFormed (deps.filter (·.1 != id)) :=
  ⟨h.ids_nodup.sublist (List.filter_sublist.map _),
    fun d hd => h.nonempty d (List.mem_filter.mp hd).1⟩

/-- Dropping an id from the index unlists every key under it, and only there. -/
theorem mem_dependents_filter (h : WellFormed deps) :
    x ∈ dependents (deps.filter (·.1 != id)) i ↔ i ≠ id ∧ x ∈ dependents deps i := by
  rw [mem_dependents (h.filter id).ids_nodup, mem_dependents h.ids_nodup]
  simp only [List.mem_filter, bne_iff_ne, ne_eq]
  constructor
  · rintro ⟨keys, ⟨hmem, hi⟩, hx⟩
    exact ⟨hi, keys, hmem, hx⟩
  · rintro ⟨hi, keys, hmem, hx⟩
    exact ⟨keys, ⟨hmem, hi⟩, hx⟩


/-- Remembering a key under each id of a list of versions. -/
theorem foldl_remember (key : CacheKey) :
    ∀ (versions : Versions) {deps : Index}, WellFormed deps →
      WellFormed (versions.foldl (fun ds v => remember key v.1 ds) deps) ∧
      ∀ x i, x ∈ dependents (versions.foldl (fun ds v => remember key v.1 ds) deps) i ↔
        x ∈ dependents deps i ∨ (i ∈ versions.map (·.1) ∧ x = key)
  | [], _, h => ⟨h, fun _ _ => by simp⟩
  | (id, _) :: versions, deps, h => by
    obtain ⟨hwf, hmem⟩ := foldl_remember key versions (h.remember key id)
    refine ⟨hwf, fun x i => ?_⟩
    rw [List.foldl_cons, hmem, mem_dependents_remember]
    simp only [List.map_cons, List.mem_cons]
    constructor
    · rintro ((hx | ⟨rfl, rfl⟩) | ⟨hi, rfl⟩)
      · exact Or.inl hx
      · exact Or.inr ⟨Or.inl rfl, rfl⟩
      · exact Or.inr ⟨Or.inr hi, rfl⟩
    · rintro (hx | ⟨rfl | hi, rfl⟩)
      · exact Or.inl (Or.inl hx)
      · exact Or.inl (Or.inr ⟨rfl, rfl⟩)
      · exact Or.inr ⟨hi, rfl⟩

/-- The dependency index covers the cache: each entry is listed under every id its versions
mention, the index is well formed, and each key is stored once. -/
structure Covers (c : VerdictCache) : Prop where
  keys_nodup : (c.entries.map (·.key)).Nodup
  index : WellFormed c.deps
  listed : ∀ e ∈ c.entries, ∀ id ∈ e.versions.map (·.1), e.key ∈ dependents c.deps id

variable {c : VerdictCache}

theorem Covers.empty (capacity : Int) : (VerdictCache.empty capacity).Covers :=
  ⟨List.nodup_nil, WellFormed.nil, fun _ h => absurd h List.not_mem_nil⟩

theorem Covers.clear (c : VerdictCache) : c.clear.Covers := Covers.empty c.capacity

/-- Dropping the entries of a key keeps the others, their keys still stored once. -/
theorem nodup_keys_filter {entries : List CacheEntry} (h : (entries.map (·.key)).Nodup)
    (key : CacheKey) : ((entries.filter (·.key != key)).map (·.key)).Nodup :=
  h.sublist (List.filter_sublist.map _)

/-- Moving or storing an entry last, after the entries of other keys. -/
theorem nodup_keys_filter_append {entries : List CacheEntry} (h : (entries.map (·.key)).Nodup)
    (e : CacheEntry) : ((entries.filter (·.key != e.key) ++ [e]).map (·.key)).Nodup := by
  rw [List.map_append, List.nodup_append]
  refine ⟨nodup_keys_filter h e.key, List.nodup_singleton _, fun a ha b hb hab => ?_⟩
  obtain ⟨x, hx, rfl⟩ := List.mem_map.mp ha
  simp only [List.map_cons, List.map_nil, List.mem_singleton] at hb
  subst hb
  simp only [List.mem_filter, bne_iff_ne] at hx
  exact hx.2 hab

theorem Covers.get (h : c.Covers) (key : CacheKey) (current : Versions) :
    (c.get key current).2.Covers := by
  unfold VerdictCache.get
  split
  · exact h
  · split
    · exact ⟨h.keys_nodup, h.index, h.listed⟩
    · rename_i e hfind
      have he : e ∈ c.entries := List.mem_of_find?_eq_some hfind
      have hkey : e.key = key := by simpa using List.find?_some hfind
      split
      · -- a hit moves the entry last
        refine ⟨hkey ▸ nodup_keys_filter_append h.keys_nodup e, h.index, fun e' he' => ?_⟩
        rcases List.mem_append.mp he' with he' | he'
        · exact h.listed e' (List.mem_filter.mp he').1
        · exact (List.mem_singleton.mp he') ▸ h.listed e he
      · -- a stale entry goes, and its key leaves the index
        refine ⟨nodup_keys_filter h.keys_nodup key, h.index.forget key e.versions,
          fun e' he' id hid => ?_⟩
        have hne : e'.key ≠ key := by simpa using (List.mem_filter.mp he').2
        exact (mem_dependents_forget hne _ h.index).mpr
          (h.listed e' (List.mem_filter.mp he').1 id hid)

theorem Covers.put (h : c.Covers) (key : CacheKey) (verdict : Verdict) (versions : Versions) :
    (c.put key verdict versions).Covers := by
  unfold VerdictCache.put
  split
  · exact h
  · dsimp only
    obtain ⟨hwf, hmem⟩ := foldl_remember key versions h.index
    have hnodup := nodup_keys_filter_append h.keys_nodup ⟨key, verdict, versions⟩
    -- every entry, the new one too, is listed once the key is remembered
    have hlisted : ∀ e ∈ c.entries.filter (·.key != key) ++ [⟨key, verdict, versions⟩],
        ∀ id ∈ e.versions.map (·.1),
          e.key ∈ dependents (versions.foldl (fun ds v => remember key v.1 ds) c.deps) id := by
      intro e he id hid
      rw [hmem]
      rcases List.mem_append.mp he with he | he
      · exact Or.inl (h.listed e (List.mem_filter.mp he).1 id hid)
      · rw [List.mem_singleton] at he
        subst he
        exact Or.inr ⟨hid, rfl⟩
    split
    · split
      · -- the least recently used entry is evicted, and its key leaves the index
        rename_i oldest rest hsplit
        rw [hsplit, List.map_cons, List.nodup_cons] at hnodup
        refine ⟨hnodup.2, hwf.forget oldest.key oldest.versions, fun e he id hid => ?_⟩
        have hne : e.key ≠ oldest.key := fun hk => hnodup.1 (hk ▸ List.mem_map_of_mem he)
        exact (mem_dependents_forget hne _ hwf).mpr
          (hlisted e (hsplit ▸ List.mem_cons_of_mem _ he) id hid)
      · exact ⟨hnodup, hwf, hlisted⟩
    · exact ⟨hnodup, hwf, hlisted⟩

/-- Drops the entry of a key, if any, from the cache and its key from the index, counting it:
one step of `invalidate`. -/
def dropKey (acc : Nat × VerdictCache) (key : CacheKey) : Nat × VerdictCache :=
  match acc.2.entries.find? (·.key == key) with
  | some e => (acc.1 + 1, { acc.2 with entries := acc.2.entries.filter (·.key != key),
                                       deps := forget key e.versions acc.2.deps })
  | none => acc

theorem invalidate_eq (c : VerdictCache) (id : String) :
    c.invalidate id =
      (dependents c.deps id).foldl dropKey (0, { c with deps := c.deps.filter (·.1 != id) }) := rfl

/-- Of entries whose keys are stored once, dropping those of the key of one of them drops one. -/
theorem length_filter_key {entries : List CacheEntry} (h : (entries.map (·.key)).Nodup)
    {e : CacheEntry} (he : e ∈ entries) :
    (entries.filter (·.key != e.key)).length + 1 = entries.length := by
  induction entries with
  | nil => exact absurd he List.not_mem_nil
  | cons a rest ih =>
    rw [List.map_cons, List.nodup_cons] at h
    rcases List.mem_cons.mp he with rfl | he
    · -- no other entry has its key
      have hkeep : rest.filter (·.key != e.key) = rest :=
        List.filter_eq_self.mpr fun x hx => bne_iff_ne.mpr fun hk =>
          h.1 (hk ▸ List.mem_map_of_mem hx)
      simp [hkeep]
    · have hne : a.key ≠ e.key := fun hk => h.1 (hk ▸ List.mem_map_of_mem he)
      simp [hne, ih h.2 he]

/-- One step of an invalidation drops the entries of its key, counts what it drops, and keeps
every other key where the index listed it. -/
theorem dropKey_spec (acc : Nat × VerdictCache) (key : CacheKey)
    (hkeys : (acc.2.entries.map (·.key)).Nodup) (hwf : WellFormed acc.2.deps) :
    (dropKey acc key).2.entries = acc.2.entries.filter (·.key != key) ∧
    (dropKey acc key).1 + (dropKey acc key).2.entries.length = acc.1 + acc.2.entries.length ∧
    WellFormed (dropKey acc key).2.deps ∧
    ∀ x, x ≠ key → ∀ i, (x ∈ dependents (dropKey acc key).2.deps i ↔ x ∈ dependents acc.2.deps i) := by
  unfold dropKey
  split
  · rename_i e hfind
    have he : e ∈ acc.2.entries := List.mem_of_find?_eq_some hfind
    have hkey : e.key = key := by simpa using List.find?_some hfind
    have hlen := length_filter_key hkeys he
    rw [hkey] at hlen
    refine ⟨rfl, by simp only; omega, hwf.forget key e.versions,
      fun x hx i => mem_dependents_forget hx _ hwf⟩
  · rename_i hfind
    -- no entry has the key
    have hkeep : acc.2.entries.filter (·.key != key) = acc.2.entries :=
      List.filter_eq_self.mpr fun x hx => by simpa using List.find?_eq_none.mp hfind x hx
    exact ⟨hkeep.symm, rfl, hwf, fun _ _ _ => Iff.rfl⟩

/-- An invalidation, key by key: the entries left are those of keys it did not reach, it counts
what it drops, and the index lists every other key where it did. -/
theorem foldl_dropKey : ∀ (keys : List CacheKey) (acc : Nat × VerdictCache),
    (acc.2.entries.map (·.key)).Nodup → WellFormed acc.2.deps →
      (keys.foldl dropKey acc).2.entries = acc.2.entries.filter (fun e => !keys.contains e.key) ∧
      (keys.foldl dropKey acc).1 + (keys.foldl dropKey acc).2.entries.length =
        acc.1 + acc.2.entries.length ∧
      WellFormed (keys.foldl dropKey acc).2.deps ∧
      ∀ x, x ∉ keys → ∀ i,
        (x ∈ dependents (keys.foldl dropKey acc).2.deps i ↔ x ∈ dependents acc.2.deps i)
  | [], acc, _, hwf => ⟨by simp, rfl, hwf, fun _ _ _ => Iff.rfl⟩
  | key :: keys, acc, hkeys, hwf => by
    obtain ⟨hentries, hcount, hwf₁, hdeps⟩ := dropKey_spec acc key hkeys hwf
    have hkeys₁ : ((dropKey acc key).2.entries.map (·.key)).Nodup :=
      hentries ▸ nodup_keys_filter hkeys key
    obtain ⟨hentries', hcount', hwf', hdeps'⟩ := foldl_dropKey keys (dropKey acc key) hkeys₁ hwf₁
    rw [List.foldl_cons]
    refine ⟨?_, hcount'.trans hcount, hwf', fun x hx i => ?_⟩
    · rw [hentries', hentries, List.filter_filter]
      congr 1
      funext e
      by_cases hk : e.key = key <;> simp [hk]
    · rw [List.mem_cons, not_or] at hx
      exact (hdeps' x hx.2 i).trans (hdeps x hx.1 i)

/-- What an invalidation keeps and returns, on a covered cache: the entries of keys the index
does not list under the id stay, the others go and are counted, and no entry left mentions the
id. -/
theorem Covers.invalidate_spec (h : c.Covers) (id : String) :
    (∀ e, e ∈ (c.invalidate id).2.entries ↔ e ∈ c.entries ∧ e.key ∉ dependents c.deps id) ∧
    (c.invalidate id).1 + (c.invalidate id).2.size = c.size ∧
    (c.invalidate id).2.Covers := by
  rw [invalidate_eq]
  obtain ⟨hentries, hcount, hwf, hdeps⟩ :=
    foldl_dropKey (dependents c.deps id) (0, { c with deps := c.deps.filter (·.1 != id) })
      h.keys_nodup (h.index.filter id)
  have hmem : ∀ e, e ∈ ((dependents c.deps id).foldl dropKey
      (0, { c with deps := c.deps.filter (·.1 != id) })).2.entries ↔
        e ∈ c.entries ∧ e.key ∉ dependents c.deps id := by
    intro e
    rw [hentries]
    simp
  refine ⟨hmem, by simpa [size] using hcount, ?_, hwf, fun e he i hi => ?_⟩
  · rw [hentries]
    exact h.keys_nodup.sublist (List.filter_sublist.map _)
  · obtain ⟨he, hnot⟩ := (hmem e).mp he
    -- an entry that stays is not listed under the id, so it does not mention it
    have hi' : i ≠ id := fun hid => hnot (hid ▸ h.listed e he i hi)
    rw [hdeps e.key hnot i, mem_dependents_filter h.index]
    exact ⟨hi', h.listed e he i hi⟩

/-- The caches that lookups, stores, invalidations and clears produce from an empty one. -/
inductive Reachable : VerdictCache → Prop where
  | empty (capacity : Int) : Reachable (VerdictCache.empty capacity)
  | get {c : VerdictCache} (key : CacheKey) (current : Versions) :
      Reachable c → Reachable (c.get key current).2
  | put {c : VerdictCache} (key : CacheKey) (verdict : Verdict) (versions : Versions) :
      Reachable c → Reachable (c.put key verdict versions)
  | invalidate {c : VerdictCache} (id : String) : Reachable c → Reachable (c.invalidate id).2
  | clear {c : VerdictCache} : Reachable c → Reachable c.clear

/-- Every reachable cache is covered by its index. -/
theorem Reachable.covers (h : c.Reachable) : c.Covers := by
  induction h with
  | empty capacity => exact Covers.empty capacity
  | get key current _ ih => exact ih.get key current
  | put key verdict versions _ ih => exact ih.put key verdict versions
  | invalidate id _ ih => exact (ih.invalidate_spec id).2.2
  | clear _ _ => exact Covers.clear _

end VerdictCache

open VerdictCache in
/-- On every cache that lookups, stores, invalidations and clears produce, the dependency index
lists each cached key under every rule set id its versions mention, and no id with no key; and
invalidating an id drops exactly the entries of the keys listed under it, among them every entry
that mentions the id, and returns how many it dropped. -/
theorem invalidate_drops_listed_entries (c : VerdictCache) (hc : c.Reachable) (id : String) :
    (∀ e ∈ c.entries, id ∈ e.versions.map (·.1) → e.key ∈ dependents c.deps id) ∧
    (∀ d ∈ c.deps, d.2 ≠ []) ∧
    (∀ e, e ∈ (c.invalidate id).2.entries ↔ e ∈ c.entries ∧ e.key ∉ dependents c.deps id) ∧
    (∀ e ∈ (c.invalidate id).2.entries, id ∉ e.versions.map (·.1)) ∧
    (c.invalidate id).1 + (c.invalidate id).2.size = c.size := by
  have h := hc.covers
  obtain ⟨hmem, hcount, -⟩ := h.invalidate_spec id
  refine ⟨fun e he hid => h.listed e he id hid, h.index.nonempty, hmem, fun e he hid => ?_, hcount⟩
  obtain ⟨he, hnot⟩ := (hmem e).mp he
  exact hnot (h.listed e he id hid)

open VerdictCache in
/-- A key stored again under another rule set, then the first rule set invalidated. -/
theorem invalidate_drops_listed_entries_restored :
    let c := ((VerdictCache.empty 10).put ("/a", false) ⟨true, none⟩ [("a", 1)]).put
      ("/a", false) ⟨true, none⟩ [("b", 1)]
    c.Reachable ∧
      (∀ e ∈ c.entries, "a" ∈ e.versions.map (·.1) → e.key ∈ dependents c.deps "a") ∧
      (∀ d ∈ c.deps, d.2 ≠ []) ∧
      (∀ e, e ∈ (c.invalidate "a").2.entries ↔ e ∈ c.entries ∧ e.key ∉ dependents c.deps "a") ∧
      (∀ e ∈ (c.invalidate "a").2.entries, "a" ∉ e.versions.map (·.1)) ∧
      (c.invalidate "a").1 + (c.invalidate "a").2.size = c.size :=
  have hc : (((VerdictCache.empty 10).put ("/a", false) ⟨true, none⟩ [("a", 1)]).put
      ("/a", false) ⟨true, none⟩ [("b", 1)]).Reachable :=
    .put _ _ _ (.put _ _ _ (.empty 10))
  ⟨hc, invalidate_drops_listed_entries _ hc "a"⟩

end IgnoreRules
