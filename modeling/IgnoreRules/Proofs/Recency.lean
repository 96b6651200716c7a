import IgnoreRules.Proofs.DependencyIndex
import Mathlib.Data.List.Induction

/-!
# The verdict cache as a least-recently-used map

A run of lookups, stores, invalidations and clears on a cache (cache.py:19–95 and 124–204) is
described by its history: the operations in order, each with the cache it met and what it answered.
Over any run from an empty cache of positive capacity `N` the cache behaves as a version-checked
least-recently-used map with counters (`VerdictCache.Lru`):

- it holds at most `N` entries, each with the verdict and versions of the last store of its key;
- its entries are ordered by their last touch, least recent first, where a store touches its
  key and a lookup touches the key it finds an entry for (`LessRecent`, `touchLog`);
- its hit, miss and eviction counters count the lookups that returned a verdict, those that
  returned nothing, and the stores that pushed out another key's entry, since the last clear.

On such a cache a lookup returns a verdict exactly when an entry of its key was stored with the
versions asked for, and then it is the verdict of the last store of the key; an entry of the key
with other versions is dropped. A store of a present key replaces and refreshes its entry, a
store of a new key is appended, and when the cache is full the least recently touched entry goes.
A cache of capacity zero or less stores nothing and never counts.

## Main statements

- `VerdictCache.Lru.perform`: one operation keeps the description.
- `VerdictCache.lru_runOps`: every run from an empty cache is described.
- `verdictCache_lru`: the cache as a least-recently-used map with counters.
-/

namespace IgnoreRules

/-- An operation on a verdict cache. -/
inductive CacheOp where
  | put (key : CacheKey) (verdict : Verdict) (versions : Versions)
  | get (key : CacheKey) (current : Versions)
  | invalidate (id : String)
  | clear
  deriving DecidableEq, Repr

/-- One step of a run: the operation, the cache it met, what it answered (the verdict a lookup
returns) and the cache it left. -/
structure CacheStep where
  op : CacheOp
  before : VerdictCache
  answer : Option Verdict
  after : VerdictCache

namespace CacheOp

/-- Performs an operation: a lookup answers what it finds, the others answer nothing. -/
def perform : CacheOp → VerdictCache → Option Verdict × VerdictCache
  | .put key verdict versions, c => (none, c.put key verdict versions)
  | .get key current, c => c.get key current
  | .invalidate id, c => (none, (c.invalidate id).2)
  | .clear, c => (none, c.clear)

/-- The step an operation makes from a cache. -/
def stepFrom (o : CacheOp) (c : VerdictCache) : CacheStep :=
  ⟨o, c, (o.perform c).1, (o.perform c).2⟩

end CacheOp

namespace CacheStep

/-- A lookup that returned a verdict. -/
def hit (s : CacheStep) : Bool :=
  match s.op with
  | .get .. => s.answer.isSome
  | _ => false

/-- A lookup that returned nothing. -/
def miss (s : CacheStep) : Bool :=
  match s.op with
  | .get .. => s.answer.isNone
  | _ => false

/-- A store that pushed out the entry of another key. -/
def evicts (s : CacheStep) : Bool :=
  match s.op with
  | .put key _ _ => s.before.entries.any fun e => e.key != key && !s.after.entries.contains e
  | _ => false

/-- The key a step touches: a store touches its key, a lookup the key it finds an entry for. -/
def touched (s : CacheStep) : Option CacheKey :=
  match s.op with
  | .put key _ _ => some key
  | .get key _ => if s.before.entries.any (·.key == key) then some key else none
  | _ => none

end CacheStep

namespace VerdictCache

/-- The cache after a run of operations. -/
def runOps (c : VerdictCache) (ops : List CacheOp) : VerdictCache :=
  ops.foldl (fun c o => (o.perform c).2) c

/-- The steps of a run of operations. -/
def history : VerdictCache → List CacheOp → List CacheStep
  | _, [] => []
  | c, o :: ops => o.stepFrom c :: history (o.perform c).2 ops

end VerdictCache

/-- The steps since the last clear. -/
def sinceClear (steps : List CacheStep) : List CacheStep :=
  (steps.reverse.takeWhile (·.op != .clear)).reverse

/-- The keys touched along a run, in order. -/
def touchLog (steps : List CacheStep) : List CacheKey := steps.filterMap CacheStep.touched

/-- The verdict and versions of the last store of a key among the operations. -/
def lastPut (key : CacheKey) (ops : List CacheOp) : Option (Verdict × Versions) :=
  ops.reverse.findSome? fun
    | .put k verdict versions => if k = key then some (verdict, versions) else none
    | _ => none

/-- `LessRecent log a b`: the log touches `b` after its last touch of `a`. -/
def LessRecent (log : List CacheKey) (a b : CacheKey) : Prop :=
  ∃ pre post, log = pre ++ b :: post ∧ a ∉ b :: post

/-! ## Histories step by step -/

theorem VerdictCache.runOps_append_singleton (c : VerdictCache) (ops : List CacheOp) (o : CacheOp) :
    c.runOps (ops ++ [o]) = (o.perform (c.runOps ops)).2 := by
  simp [VerdictCache.runOps, List.foldl_append]

theorem VerdictCache.history_append_singleton (o : CacheOp) :
    ∀ (c : VerdictCache) (ops : List CacheOp),
      c.history (ops ++ [o]) = c.history ops ++ [o.stepFrom (c.runOps ops)]
  | c, [] => rfl
  | c, o' :: ops => by
    rw [List.cons_append, VerdictCache.history, VerdictCache.history_append_singleton o _ ops]
    rfl

theorem sinceClear_append_singleton (steps : List CacheStep) (s : CacheStep) :
    sinceClear (steps ++ [s]) = if s.op = .clear then [] else sinceClear steps ++ [s] := by
  unfold sinceClear
  by_cases hs : s.op = .clear <;> simp [hs]

theorem sinceClear_append_clear (steps : List CacheStep) (c : VerdictCache) :
    sinceClear (steps ++ [CacheOp.clear.stepFrom c]) = [] := by
  have hclear : (CacheOp.clear.stepFrom c).op = .clear := rfl
  rw [sinceClear_append_singleton, if_pos hclear]

theorem touchLog_append_singleton (steps : List CacheStep) (s : CacheStep) :
    touchLog (steps ++ [s]) = touchLog steps ++ s.touched.toList := by
  unfold touchLog
  cases h : s.touched <;> simp [h]

theorem lastPut_append_put (ops : List CacheOp) (k key : CacheKey) (verdict : Verdict)
    (versions : Versions) :
    lastPut key (ops ++ [.put k verdict versions]) =
      if k = key then some (verdict, versions) else lastPut key ops := by
  by_cases hk : k = key <;> simp [lastPut, hk]

theorem lastPut_append_of_ne_put (ops : List CacheOp) (o : CacheOp)
    (ho : ∀ k verdict versions, o ≠ .put k verdict versions) (key : CacheKey) :
    lastPut key (ops ++ [o]) = lastPut key ops := by
  cases o with
  | put k verdict versions => exact absurd rfl (ho k verdict versions)
  | _ => simp [lastPut]

/-- A touch of `x` makes `x` the most recent key and keeps the order of the others. -/
theorem lessRecent_append_singleton {log : List CacheKey} {x a b : CacheKey} :
    LessRecent (log ++ [x]) a b ↔ (b = x ∧ a ≠ x) ∨ (LessRecent log a b ∧ a ≠ x) := by
  constructor
  · rintro ⟨pre, post, hlog, ha⟩
    rcases List.eq_nil_or_concat post with rfl | ⟨post', y, rfl⟩
    · -- `b` is the key just touched
      obtain ⟨-, hb⟩ := List.append_inj' hlog rfl
      simp only [List.cons.injEq, and_true] at hb
      simp only [List.mem_singleton] at ha
      exact Or.inl ⟨hb.symm, fun h => ha (h.trans hb)⟩
    · rw [List.concat_eq_append] at hlog ha
      have hsplit : log ++ [x] = (pre ++ b :: post') ++ [y] := by simpa using hlog
      obtain ⟨hlog', hy⟩ := List.append_inj' hsplit rfl
      simp only [List.cons.injEq, and_true] at hy
      subst hy
      rw [← List.cons_append, List.mem_append, List.mem_singleton, not_or] at ha
      exact Or.inr ⟨⟨pre, post', hlog', ha.1⟩, ha.2⟩
  · rintro (⟨rfl, hax⟩ | ⟨⟨pre, post, rfl, ha⟩, hax⟩)
    · exact ⟨log, [], rfl, by simpa using hax⟩
    · refine ⟨pre, post ++ [x], by simp, ?_⟩
      rw [← List.cons_append, List.mem_append, List.mem_singleton, not_or]
      exact ⟨ha, hax⟩

/-! ## Each operation on an enabled cache -/

namespace VerdictCache

variable {c : VerdictCache} {key : CacheKey} {verdict : Verdict} {versions current : Versions}

theorem enabled_iff : c.enabled = true ↔ 0 < c.capacity := by
  simp [enabled]

theorem find?_key_eq_none_iff :
    c.entries.find? (·.key == key) = none ↔ key ∉ c.entries.map (·.key) := by
  simp [List.find?_eq_none]

theorem filter_key_of_not_mem (h : key ∉ c.entries.map (·.key)) :
    c.entries.filter (·.key != key) = c.entries :=
  List.filter_eq_self.mpr fun _ he => bne_iff_ne.mpr fun hk => h (hk ▸ List.mem_map_of_mem he)

theorem any_key_of_not_mem (h : key ∉ c.entries.map (·.key)) :
    c.entries.any (·.key == key) = false := by
  rw [List.any_eq_false]
  intro e he hk
  exact h (beq_iff_eq.mp hk ▸ List.mem_map_of_mem he)

/-- A lookup of a key with no entry counts a miss and changes nothing else. -/
theorem get_of_not_mem (hc : 0 < c.capacity) (h : key ∉ c.entries.map (·.key)) :
    c.get key current = (none, { c with misses := c.misses + 1 }) := by
  have hfind := find?_key_eq_none_iff.mpr h
  simp [get, enabled_iff.mpr hc, hfind]

/-- A lookup that finds its key stored with the versions asked for returns its verdict, counts a
hit and moves the entry last. -/
theorem get_of_found (hc : 0 < c.capacity) {e : CacheEntry}
    (hfind : c.entries.find? (·.key == key) = some e) (hv : e.versions = current) :
    c.get key current =
      (some e.verdict, { c with entries := c.entries.filter (·.key != key) ++ [e],
                                hits := c.hits + 1 }) := by
  simp [get, enabled_iff.mpr hc, hfind, hv]

/-- A lookup that finds its key stored with other versions drops the entry and counts a miss. -/
theorem get_of_stale (hc : 0 < c.capacity) {e : CacheEntry}
    (hfind : c.entries.find? (·.key == key) = some e) (hv : e.versions ≠ current) :
    ∃ deps, c.get key current =
      (none, { c with entries := c.entries.filter (·.key != key), misses := c.misses + 1,
                      deps }) := by
  refine ⟨forget key e.versions c.deps, ?_⟩
  have hv' : (e.versions == current) = false := beq_eq_false_iff_ne.mpr hv
  simp [get, enabled_iff.mpr hc, hfind, hv']

/-- A store of a present key replaces its entry and moves it last. -/
theorem put_of_mem (verdict : Verdict) (versions : Versions) (hc : 0 < c.capacity)
    (h : key ∈ c.entries.map (·.key)) :
    ∃ deps, c.put key verdict versions =
      { c with entries := c.entries.filter (·.key != key) ++ [⟨key, verdict, versions⟩],
               deps } := by
  have hany : c.entries.any (·.key == key) = true := by
    obtain ⟨e, he, rfl⟩ := List.mem_map.mp h
    exact List.any_eq_true.mpr ⟨e, he, beq_self_eq_true _⟩
  exact ⟨_, by simp [put, enabled_iff.mpr hc, hany]; rfl⟩

/-- A store of a new key into a cache with room appends its entry. -/
theorem put_of_not_mem_lt (verdict : Verdict) (versions : Versions) (hc : 0 < c.capacity)
    (h : key ∉ c.entries.map (·.key))
    (hroom : (c.size : Int) < c.capacity) :
    ∃ deps, c.put key verdict versions =
      { c with entries := c.entries ++ [⟨key, verdict, versions⟩], deps } := by
  have hlen : ¬c.capacity < ((c.entries.length + 1 : Nat) : Int) := by
    simp only [size] at hroom
    omega
  refine ⟨versions.foldl (fun ds v => remember key v.1 ds) c.deps, ?_⟩
  unfold put
  simp only [enabled_iff.mpr hc, Bool.not_true, Bool.false_eq_true, ite_false,
    any_key_of_not_mem h, filter_key_of_not_mem h, List.length_append, List.length_singleton,
    hlen, decide_false, Bool.not_false, Bool.and_false]

/-- A store of a new key into a full cache evicts the first entry, the least recently used,
and appends its own. -/
theorem put_of_not_mem_full (verdict : Verdict) (versions : Versions) (hc : 0 < c.capacity)
    (h : key ∉ c.entries.map (·.key))
    (hfull : (c.size : Int) = c.capacity) :
    ∃ deps, c.put key verdict versions =
      { c with entries := c.entries.tail ++ [⟨key, verdict, versions⟩],
               evictions := c.evictions + 1, deps } := by
  have hne : c.entries ≠ [] := by
    intro hnil
    simp only [size, hnil, List.length_nil] at hfull
    omega
  obtain ⟨oldest, rest, hentries⟩ := List.exists_cons_of_ne_nil hne
  have hlen : c.capacity < ((c.entries.length + 1 : Nat) : Int) := by
    simp only [size] at hfull
    omega
  refine ⟨forget oldest.key oldest.versions
    (versions.foldl (fun ds v => remember key v.1 ds) c.deps), ?_⟩
  unfold put
  simp only [enabled_iff.mpr hc, Bool.not_true, Bool.false_eq_true, ite_false,
    any_key_of_not_mem h, filter_key_of_not_mem h, List.length_append, List.length_singleton,
    hlen, decide_true, Bool.not_false, Bool.and_self, ite_true]
  rw [hentries]
  rfl

/-- A store replaces the entry of a present key, appends that of a new key to a cache with
room, and, as a new key in a full cache, evicts the first entry. -/
theorem put_cases (key : CacheKey) (verdict : Verdict) (versions : Versions) (hc : 0 < c.capacity)
    (hsize : (c.size : Int) ≤ c.capacity) :
    (key ∈ c.entries.map (·.key) ∧ ∃ deps, c.put key verdict versions =
      { c with entries := c.entries.filter (·.key != key) ++ [⟨key, verdict, versions⟩], deps }) ∨
    (key ∉ c.entries.map (·.key) ∧ (c.size : Int) < c.capacity ∧
      ∃ deps, c.put key verdict versions =
      { c with entries := c.entries ++ [⟨key, verdict, versions⟩], deps }) ∨
    (key ∉ c.entries.map (·.key) ∧ (c.size : Int) = c.capacity ∧
      ∃ deps, c.put key verdict versions =
      { c with entries := c.entries.tail ++ [⟨key, verdict, versions⟩],
               evictions := c.evictions + 1, deps }) := by
  by_cases hk : key ∈ c.entries.map (·.key)
  · exact Or.inl ⟨hk, put_of_mem verdict versions hc hk⟩
  · rcases Int.lt_or_eq_of_le hsize with hroom | hfull
    · exact Or.inr (Or.inl ⟨hk, hroom, put_of_not_mem_lt verdict versions hc hk hroom⟩)
    · exact Or.inr (Or.inr ⟨hk, hfull, put_of_not_mem_full verdict versions hc hk hfull⟩)

/-- An invalidation keeps the entries of the keys the index does not list under the id, and
every counter. -/
theorem invalidate_eq_filter (h : c.Covers) (id : String) :
    ∃ deps, (c.invalidate id).2 =
      { c with entries := c.entries.filter (fun e => !(dependents c.deps id).contains e.key),
               deps } := by
  obtain ⟨hentries, -, -, -⟩ := foldl_dropKey (dependents c.deps id)
    (0, { c with deps := c.deps.filter (·.1 != id) }) h.keys_nodup (h.index.filter id)
  -- each step of the invalidation changes only the entries and the index
  have hkeep : ∀ (keys : List CacheKey) (acc : Nat × VerdictCache),
      ∃ entries deps, (keys.foldl dropKey acc).2 = { acc.2 with entries, deps } := by
    intro keys
    induction keys with
    | nil => exact fun acc => ⟨acc.2.entries, acc.2.deps, rfl⟩
    | cons key keys ih =>
      intro acc
      obtain ⟨entries, deps, heq⟩ := ih (dropKey acc key)
      rw [List.foldl_cons, heq]
      unfold dropKey
      split <;> exact ⟨entries, deps, rfl⟩
  obtain ⟨entries, deps, heq⟩ := hkeep (dependents c.deps id)
    (0, { c with deps := c.deps.filter (·.1 != id) })
  rw [heq] at hentries
  simp only at hentries
  subst hentries
  rw [invalidate_eq, heq]
  exact ⟨deps, rfl⟩

theorem capacity_put : (c.put key verdict versions).capacity = c.capacity := by
  unfold put
  split
  · rfl
  · dsimp only
    split
    · split <;> rfl
    · rfl

theorem counters_put :
    (c.put key verdict versions).hits = c.hits ∧
      (c.put key verdict versions).misses = c.misses := by
  unfold put
  split
  · exact ⟨rfl, rfl⟩
  · dsimp only
    split
    · split <;> exact ⟨rfl, rfl⟩
    · exact ⟨rfl, rfl⟩

theorem capacity_get : (c.get key current).2.capacity = c.capacity := by
  unfold get
  split
  · rfl
  · split
    · rfl
    · split <;> rfl

/-- On an enabled cache a lookup counts a hit when it returns a verdict and a miss otherwise, and
evicts nothing. -/
theorem counters_get (hc : 0 < c.capacity) (key : CacheKey) (current : Versions) :
    (c.get key current).2.hits = c.hits + (if (c.get key current).1.isSome then 1 else 0) ∧
      (c.get key current).2.misses = c.misses + (if (c.get key current).1.isNone then 1 else 0) ∧
      (c.get key current).2.evictions = c.evictions + 0 := by
  cases hfind : c.entries.find? (·.key == key) with
  | none =>
    rw [get_of_not_mem hc (find?_key_eq_none_iff.mp hfind)]
    exact ⟨rfl, rfl, rfl⟩
  | some e =>
    by_cases hv : e.versions = current
    · rw [get_of_found hc hfind hv]
      exact ⟨rfl, rfl, rfl⟩
    · obtain ⟨deps, hget⟩ := get_of_stale hc hfind hv
      rw [hget]
      exact ⟨rfl, rfl, rfl⟩

/-- A store evicts nothing when every entry of another key is still there after it. -/
theorem evicts_put_of_kept {verdict : Verdict} {versions : Versions}
    (hkept : ∀ e ∈ c.entries, e.key ≠ key → e ∈ (c.put key verdict versions).entries) :
    ((CacheOp.put key verdict versions).stepFrom c).evicts = false := by
  show (c.entries.any fun e => e.key != key && !(c.put key verdict versions).entries.contains e) =
    false
  rw [List.any_eq_false]
  intro e he hout
  simp only [Bool.and_eq_true, bne_iff_ne, Bool.not_eq_true', List.contains_eq_mem,
    decide_eq_false_iff_not] at hout
  exact hout.2 (hkept e he hout.1)

end VerdictCache

/-! ## Runs from an empty cache -/

/-- A touch of the key of `new`, stored last: the other entries keep their order, and `new`
comes after them all. -/
theorem pairwise_touch {E : List CacheEntry} {log : List CacheKey}
    (hE : E.Pairwise fun e e' => LessRecent log e.key e'.key) (new : CacheEntry) :
    (E.filter (·.key != new.key) ++ [new]).Pairwise
      fun e e' => LessRecent (log ++ [new.key]) e.key e'.key := by
  rw [List.pairwise_append]
  refine ⟨?_, List.pairwise_singleton _ _, fun e he e' he' => ?_⟩
  · refine (hE.filter _).imp_of_mem fun ha _ hab => ?_
    have hne : _ ≠ new.key := bne_iff_ne.mp (List.mem_filter.mp ha).2
    exact lessRecent_append_singleton.mpr (Or.inr ⟨hab, hne⟩)
  · rw [List.mem_singleton] at he'
    subst he'
    exact lessRecent_append_singleton.mpr (Or.inl ⟨rfl, bne_iff_ne.mp (List.mem_filter.mp he).2⟩)

theorem countP_sinceClear_append {steps : List CacheStep} {s : CacheStep} (hs : s.op ≠ .clear)
    (p : CacheStep → Bool) :
    (sinceClear (steps ++ [s])).countP p = (sinceClear steps).countP p + if p s then 1 else 0 := by
  rw [sinceClear_append_singleton, if_neg hs, List.countP_append]
  cases hp : p s <;> simp [hp]

namespace VerdictCache

variable {N : Int} {ops : List CacheOp} {steps : List CacheStep} {c : VerdictCache}

/-- What a run of operations `ops`, with steps `steps`, leaves in a cache of capacity `N`: at most
`N` entries, each key stored once and listed in the index, each entry holding the last store of
its key, the entries in the order of their last touch, least recent first, and counters that
count, since the last clear, the lookups that found a verdict, those that did not, and the
stores that pushed out another key's entry. -/
structure Lru (N : Int) (ops : List CacheOp) (steps : List CacheStep) (c : VerdictCache) :
    Prop where
  capacity : c.capacity = N
  covers : c.Covers
  size_le : (c.size : Int) ≤ N
  latest : ∀ e ∈ c.entries, lastPut e.key ops = some (e.verdict, e.versions)
  recency : c.entries.Pairwise fun e e' => LessRecent (touchLog steps) e.key e'.key
  hits : c.hits = (sinceClear steps).countP CacheStep.hit
  misses : c.misses = (sinceClear steps).countP CacheStep.miss
  evictions : c.evictions = (sinceClear steps).countP CacheStep.evicts

theorem Lru.empty (hN : 0 ≤ N) : Lru N [] [] (empty N) where
  capacity := rfl
  covers := Covers.empty N
  size_le := hN
  latest _ h := absurd h List.not_mem_nil
  recency := List.Pairwise.nil
  hits := rfl
  misses := rfl
  evictions := rfl

/-- One operation other than a clear keeps the description, given the cache it leaves: its
capacity, index and bound, a list of entries in touch order that holds the last stores and
contains the entries left in order, and counters moved by what the step counts. -/
theorem Lru.step (h : Lru N ops steps c) {o : CacheOp} (ho : o ≠ .clear) {E : List CacheEntry}
    (hcov : (o.perform c).2.Covers) (hcap : (o.perform c).2.capacity = c.capacity)
    (hsize : ((o.perform c).2.size : Int) ≤ N) (hsub : (o.perform c).2.entries.Sublist E)
    (hlatest : ∀ e ∈ E, lastPut e.key (ops ++ [o]) = some (e.verdict, e.versions))
    (hrec : E.Pairwise fun e e' => LessRecent (touchLog (steps ++ [o.stepFrom c])) e.key e'.key)
    (hhits : (o.perform c).2.hits = c.hits + if (o.stepFrom c).hit then 1 else 0)
    (hmisses : (o.perform c).2.misses = c.misses + if (o.stepFrom c).miss then 1 else 0)
    (hevictions :
      (o.perform c).2.evictions = c.evictions + if (o.stepFrom c).evicts then 1 else 0) :
    Lru N (ops ++ [o]) (steps ++ [o.stepFrom c]) (o.perform c).2 where
  capacity := hcap.trans h.capacity
  covers := hcov
  size_le := hsize
  latest e he := hlatest e (hsub.subset he)
  recency := hrec.sublist hsub
  hits := by rw [hhits, h.hits, countP_sinceClear_append ho]
  misses := by rw [hmisses, h.misses, countP_sinceClear_append ho]
  evictions := by rw [hevictions, h.evictions, countP_sinceClear_append ho]

/-- A store keeps the description: its key becomes the most recently touched, its entry holds
the store, and a new key in a full cache evicts the least recently touched entry. -/
theorem Lru.put (h : Lru N ops steps c) (hN : 0 < N) (key : CacheKey) (verdict : Verdict)
    (versions : Versions) :
    Lru N (ops ++ [.put key verdict versions])
      (steps ++ [(CacheOp.put key verdict versions).stepFrom c]) (c.put key verdict versions) := by
  have hc : 0 < c.capacity := h.capacity ▸ hN
  let new : CacheEntry := ⟨key, verdict, versions⟩
  have hlog : touchLog (steps ++ [(CacheOp.put key verdict versions).stepFrom c]) =
      touchLog steps ++ [key] := touchLog_append_singleton _ _
  have hrec := hlog ▸ pairwise_touch h.recency new
  have hlatest : ∀ e ∈ c.entries.filter (·.key != key) ++ [new],
      lastPut e.key (ops ++ [.put key verdict versions]) = some (e.verdict, e.versions) := by
    intro e he
    rw [lastPut_append_put]
    rcases List.mem_append.mp he with he | he
    · obtain ⟨he, hk⟩ := List.mem_filter.mp he
      rw [if_neg (Ne.symm (bne_iff_ne.mp hk))]
      exact h.latest e he
    · rw [List.mem_singleton.mp he]
      simp [new]
  have hcount : (c.put key verdict versions).hits = c.hits ∧
      (c.put key verdict versions).misses = c.misses :=
    counters_put
  obtain ⟨hhits, hmisses⟩ := hcount
  rcases put_cases key verdict versions hc (h.capacity ▸ h.size_le) with
    ⟨hk, deps, hput⟩ | ⟨hk, hroom, deps, hput⟩ | ⟨hk, hfull, deps, hput⟩
  · -- a present key: its entry is replaced and moved last
    obtain ⟨e, he, hek⟩ := List.mem_map.mp hk
    have hlen := length_filter_key h.covers.keys_nodup he
    rw [hek] at hlen
    refine h.step (o := .put key verdict versions) CacheOp.noConfusion
      (h.covers.put key verdict versions) capacity_put ?_
      (by show (c.put key verdict versions).entries.Sublist _; rw [hput]) hlatest hrec
      hhits hmisses ?_
    · have := h.size_le
      show ((c.put key verdict versions).size : Int) ≤ N
      simp only [size, hput, List.length_append, List.length_singleton] at this ⊢
      omega
    · -- every other entry stays
      have hkeep := evicts_put_of_kept fun e' he' hne => by
        rw [hput]
        exact List.mem_append_left _ (List.mem_filter.mpr ⟨he', bne_iff_ne.mpr hne⟩)
      show (c.put key verdict versions).evictions = _
      rw [hkeep, hput]
      rfl
  · -- a new key with room: its entry is appended
    refine h.step (o := .put key verdict versions) CacheOp.noConfusion
      (h.covers.put key verdict versions) capacity_put ?_
      (by show (c.put key verdict versions).entries.Sublist _; rw [hput, filter_key_of_not_mem hk])
      hlatest hrec
      hhits hmisses ?_
    · show ((c.put key verdict versions).size : Int) ≤ N
      simp only [size, hput, List.length_append, List.length_singleton] at hroom ⊢
      rw [h.capacity] at hroom
      omega
    · have hkeep := evicts_put_of_kept fun e' he' _ => by
        rw [hput]
        exact List.mem_append_left _ he'
      show (c.put key verdict versions).evictions = _
      rw [hkeep, hput]
      rfl
  · -- a new key in a full cache: the first entry, the least recently touched, goes
    have hne : c.entries ≠ [] := by
      intro hnil
      simp only [size, hnil, List.length_nil] at hfull
      omega
    obtain ⟨oldest, rest, hentries⟩ := List.exists_cons_of_ne_nil hne
    have hnodup := h.covers.keys_nodup
    rw [hentries, List.map_cons, List.nodup_cons] at hnodup
    refine h.step (o := .put key verdict versions) CacheOp.noConfusion
      (h.covers.put key verdict versions) capacity_put ?_ ?_ hlatest hrec
      hhits hmisses ?_
    · have := h.size_le
      show ((c.put key verdict versions).size : Int) ≤ N
      simp only [size, hput, hentries, List.length_append, List.length_cons, List.tail_cons]
        at this ⊢
      omega
    · show (c.put key verdict versions).entries.Sublist _
      rw [hput, filter_key_of_not_mem hk]
      exact (List.tail_sublist _).append (List.Sublist.refl _)
    · have hout : ((CacheOp.put key verdict versions).stepFrom c).evicts = true := by
        show (c.entries.any fun e =>
          e.key != key && !(c.put key verdict versions).entries.contains e) = true
        rw [List.any_eq_true]
        refine ⟨oldest, hentries ▸ List.mem_cons_self, ?_⟩
        have hne : oldest.key ≠ key := fun hk' =>
          hk (hk' ▸ hentries ▸ List.mem_map_of_mem List.mem_cons_self)
        simp only [Bool.and_eq_true, bne_iff_ne, Bool.not_eq_true', List.contains_eq_mem,
          decide_eq_false_iff_not, hput, hentries, List.tail_cons, List.mem_append,
          List.mem_singleton, not_or]
        refine ⟨hne, fun hr => hnodup.1 (List.mem_map_of_mem hr), fun heq => hne (heq ▸ rfl)⟩
      show (c.put key verdict versions).evictions = _
      rw [hout, hput]
      rfl

/-- A lookup keeps the description: a key it finds becomes the most recently touched, a stale
entry goes, and the answer is counted as a hit or a miss. -/
theorem Lru.get (h : Lru N ops steps c) (hN : 0 < N) (key : CacheKey) (current : Versions) :
    Lru N (ops ++ [.get key current]) (steps ++ [(CacheOp.get key current).stepFrom c])
      (c.get key current).2 := by
  have hc : 0 < c.capacity := h.capacity ▸ hN
  have hlatest : ∀ e ∈ c.entries,
      lastPut e.key (ops ++ [.get key current]) = some (e.verdict, e.versions) := fun e he =>
    (lastPut_append_of_ne_put _ _ (fun _ _ _ => CacheOp.noConfusion) e.key).trans (h.latest e he)
  obtain ⟨hhits, hmisses, hevictions⟩ := counters_get hc key current
  cases hfind : c.entries.find? (·.key == key) with
  | none =>
    -- no entry of the key: a miss that touches nothing
    have hk := find?_key_eq_none_iff.mp hfind
    have hget : c.get key current = (none, { c with misses := c.misses + 1 }) :=
      get_of_not_mem hc hk
    have hlog : touchLog (steps ++ [(CacheOp.get key current).stepFrom c]) = touchLog steps := by
      rw [touchLog_append_singleton]
      simp [CacheStep.touched, CacheOp.stepFrom, any_key_of_not_mem hk]
    refine h.step (o := .get key current) (E := c.entries) CacheOp.noConfusion
      (h.covers.get key current) capacity_get ?_ ?_ hlatest (hlog ▸ h.recency) hhits hmisses
      hevictions
    · show ((c.get key current).2.size : Int) ≤ N
      rw [hget]
      exact h.size_le
    · show (c.get key current).2.entries.Sublist c.entries
      rw [hget]
  | some e =>
    -- the entry of the key is touched: moved last on a hit, dropped when stale
    have he := List.mem_of_find?_eq_some hfind
    have hek : e.key = key := by simpa using List.find?_some hfind
    have hany : c.entries.any (·.key == key) = true :=
      List.any_eq_true.mpr ⟨e, he, beq_iff_eq.mpr hek⟩
    have hlog : touchLog (steps ++ [(CacheOp.get key current).stepFrom c]) =
        touchLog steps ++ [key] := by
      rw [touchLog_append_singleton]
      simp [CacheStep.touched, CacheOp.stepFrom, hany]
    have hrec := pairwise_touch h.recency e
    rw [hek, ← hlog] at hrec
    have hlatest' : ∀ e' ∈ c.entries.filter (·.key != key) ++ [e],
        lastPut e'.key (ops ++ [.get key current]) = some (e'.verdict, e'.versions) := by
      intro e' he'
      rcases List.mem_append.mp he' with he' | he'
      · exact hlatest e' (List.mem_of_mem_filter he')
      · exact (List.mem_singleton.mp he') ▸ hlatest e he
    have hlen := length_filter_key h.covers.keys_nodup he
    rw [hek] at hlen
    by_cases hv : e.versions = current
    · have hget := get_of_found hc hfind hv
      refine h.step (o := .get key current) CacheOp.noConfusion
        (h.covers.get key current) capacity_get ?_ ?_ hlatest' hrec hhits hmisses hevictions
      · show ((c.get key current).2.size : Int) ≤ N
        have := h.size_le
        simp only [hget, size, List.length_append, List.length_singleton] at this ⊢
        omega
      · show (c.get key current).2.entries.Sublist _
        rw [hget]
    · obtain ⟨deps, hget⟩ := get_of_stale hc hfind hv
      refine h.step (o := .get key current) CacheOp.noConfusion
        (h.covers.get key current) capacity_get ?_ ?_ hlatest' hrec hhits hmisses hevictions
      · show ((c.get key current).2.size : Int) ≤ N
        have := h.size_le
        simp only [hget, size] at this ⊢
        omega
      · show (c.get key current).2.entries.Sublist _
        rw [hget]
        exact List.sublist_append_left _ _

/-- An invalidation keeps the description: it only drops entries and touches nothing. -/
theorem Lru.invalidate (h : Lru N ops steps c) (id : String) :
    Lru N (ops ++ [.invalidate id]) (steps ++ [(CacheOp.invalidate id).stepFrom c])
      (c.invalidate id).2 := by
  obtain ⟨deps, hinv⟩ := invalidate_eq_filter h.covers id
  have hlog : touchLog (steps ++ [(CacheOp.invalidate id).stepFrom c]) = touchLog steps := by
    simp [touchLog_append_singleton, CacheStep.touched, CacheOp.stepFrom]
  have hlatest : ∀ e ∈ c.entries,
      lastPut e.key (ops ++ [.invalidate id]) = some (e.verdict, e.versions) := fun e he =>
    (lastPut_append_of_ne_put _ _ (fun _ _ _ => CacheOp.noConfusion) e.key).trans (h.latest e he)
  refine h.step (o := .invalidate id) (E := c.entries) CacheOp.noConfusion
    (h.covers.invalidate_spec id).2.2 ?_ ?_ ?_ hlatest (hlog ▸ h.recency) ?_ ?_ ?_
  · show (c.invalidate id).2.capacity = c.capacity
    rw [hinv]
  · show ((c.invalidate id).2.size : Int) ≤ N
    have hle := List.length_filter_le (fun e => !(dependents c.deps id).contains e.key) c.entries
    have := h.size_le
    simp only [hinv, size] at this ⊢
    omega
  · show (c.invalidate id).2.entries.Sublist c.entries
    rw [hinv]
    exact List.filter_sublist
  · show (c.invalidate id).2.hits = c.hits + 0
    rw [hinv]
    rfl
  · show (c.invalidate id).2.misses = c.misses + 0
    rw [hinv]
    rfl
  · show (c.invalidate id).2.evictions = c.evictions + 0
    rw [hinv]
    rfl

/-- A clear empties the cache and restarts the counts. -/
theorem Lru.clear (h : Lru N ops steps c) :
    Lru N (ops ++ [.clear]) (steps ++ [CacheOp.clear.stepFrom c]) c.clear where
  capacity := h.capacity
  covers := Covers.clear c
  size_le := by
    have := h.size_le
    show ((0 : Nat) : Int) ≤ N
    omega
  latest _ he := absurd he List.not_mem_nil
  recency := List.Pairwise.nil
  hits := by
    rw [sinceClear_append_clear]
    rfl
  misses := by
    rw [sinceClear_append_clear]
    rfl
  evictions := by
    rw [sinceClear_append_clear]
    rfl

/-- Every operation keeps the description. -/
theorem Lru.perform (h : Lru N ops steps c) (hN : 0 < N) :
    ∀ o : CacheOp, Lru N (ops ++ [o]) (steps ++ [o.stepFrom c]) (o.perform c).2
  | .put key verdict versions => h.put hN key verdict versions
  | .get key current => h.get hN key current
  | .invalidate id => h.invalidate id
  | .clear => h.clear

/-- Every run from an empty cache of positive capacity is described by its operations and its
steps. The induction adds one operation at the end of the run. -/
theorem lru_runOps (hN : 0 < N) (ops : List CacheOp) :
    Lru N ops ((empty N).history ops) ((empty N).runOps ops) := by
  induction ops using List.reverseRecOn with
  | nil => exact Lru.empty (Int.le_of_lt hN)
  | append_singleton ops o ih =>
    rw [history_append_singleton, runOps_append_singleton]
    exact ih.perform hN o

/-- How the next operation acts on a cache that a run of `ops` with steps `steps` left: a lookup
returns a verdict exactly when an entry of its key is present and the last store of the key had
the versions asked for, and then that store's verdict; a lookup that finds other versions drops
the entry; a store of a present key replaces its entry and moves it last; a store of a new key
into a cache with room appends its entry; and into a full cache it evicts the least recently
touched entry, counting the eviction. -/
structure NextLaws (N : Int) (ops : List CacheOp) (steps : List CacheStep) (c : VerdictCache) :
    Prop where
  get_some : ∀ key current v, (c.get key current).1 = some v ↔
    key ∈ c.entries.map (·.key) ∧ lastPut key ops = some (v, current)
  get_stale : ∀ key current, ∀ e ∈ c.entries, e.key = key → e.versions ≠ current →
    key ∉ (c.get key current).2.entries.map (·.key)
  put_present : ∀ key verdict versions, key ∈ c.entries.map (·.key) →
    (c.put key verdict versions).entries =
      c.entries.filter (·.key != key) ++ [⟨key, verdict, versions⟩] ∧
    (c.put key verdict versions).evictions = c.evictions
  put_room : ∀ key verdict versions, key ∉ c.entries.map (·.key) → (c.size : Int) < N →
    (c.put key verdict versions).entries = c.entries ++ [⟨key, verdict, versions⟩] ∧
    (c.put key verdict versions).evictions = c.evictions
  put_full : ∀ key verdict versions, key ∉ c.entries.map (·.key) → (c.size : Int) = N →
    ∃ oldest ∈ c.entries,
      (∀ e ∈ c.entries, e ≠ oldest → LessRecent (touchLog steps) oldest.key e.key) ∧
      (c.put key verdict versions).entries = c.entries.erase oldest ++ [⟨key, verdict, versions⟩] ∧
      (c.put key verdict versions).evictions = c.evictions + 1

/-- The entry of a present key is the one `find?` returns. -/
theorem Lru.find?_eq_some (h : Lru N ops steps c) {e : CacheEntry} (he : e ∈ c.entries) :
    c.entries.find? (·.key == e.key) = some e := by
  obtain ⟨e', hfind⟩ := Option.isSome_iff_exists.mp
    ((List.find?_isSome (p := fun x : CacheEntry => x.key == e.key)).mpr
      ⟨e, he, beq_self_eq_true _⟩)
  have hkey : e'.key = e.key := by simpa using List.find?_some hfind
  rw [hfind, List.inj_on_of_nodup_map h.covers.keys_nodup (List.mem_of_find?_eq_some hfind) he hkey]

/-- The laws of the next operation hold on every described cache. -/
theorem Lru.next (h : Lru N ops steps c) (hN : 0 < N) : NextLaws N ops steps c where
  get_some key current v := by
    have hc : 0 < c.capacity := h.capacity ▸ hN
    constructor
    · intro hv
      cases hfind : c.entries.find? (·.key == key) with
      | none =>
        rw [get_of_not_mem hc (find?_key_eq_none_iff.mp hfind)] at hv
        cases hv
      | some e =>
        have he := List.mem_of_find?_eq_some hfind
        have hek : e.key = key := by simpa using List.find?_some hfind
        by_cases hve : e.versions = current
        · -- a hit returns the verdict of the entry, which holds the last store of the key
          rw [get_of_found hc hfind hve, Option.some.injEq] at hv
          subst hv
          refine ⟨hek ▸ List.mem_map_of_mem he, ?_⟩
          rw [← hek, ← hve]
          exact h.latest e he
        · obtain ⟨deps, hget⟩ := get_of_stale hc hfind hve
          rw [hget] at hv
          cases hv
    · rintro ⟨hk, hlast⟩
      obtain ⟨e, he, rfl⟩ := List.mem_map.mp hk
      rw [h.latest e he, Option.some.injEq, Prod.mk.injEq] at hlast
      rw [get_of_found hc (h.find?_eq_some he) hlast.2, hlast.1]
  get_stale key current e he hek hv := by
    have hc : 0 < c.capacity := h.capacity ▸ hN
    subst hek
    obtain ⟨deps, hget⟩ := get_of_stale hc (h.find?_eq_some he) hv
    rw [hget]
    simp
  put_present key verdict versions hk := by
    obtain ⟨deps, hput⟩ := put_of_mem verdict versions (h.capacity ▸ hN) hk
    rw [hput]
    exact ⟨rfl, rfl⟩
  put_room key verdict versions hk hroom := by
    obtain ⟨deps, hput⟩ := put_of_not_mem_lt verdict versions (h.capacity ▸ hN) hk
      (h.capacity ▸ hroom)
    rw [hput]
    exact ⟨rfl, rfl⟩
  put_full key verdict versions hk hfull := by
    have hc : 0 < c.capacity := h.capacity ▸ hN
    obtain ⟨deps, hput⟩ := put_of_not_mem_full verdict versions hc hk (h.capacity ▸ hfull)
    have hne : c.entries ≠ [] := by
      intro hnil
      simp only [size, hnil, List.length_nil] at hfull
      omega
    obtain ⟨oldest, rest, hentries⟩ := List.exists_cons_of_ne_nil hne
    have hrec := h.recency
    have hnodup := h.covers.keys_nodup
    rw [hentries] at hrec hnodup
    rw [List.map_cons, List.nodup_cons] at hnodup
    refine ⟨oldest, hentries ▸ List.mem_cons_self, fun e he hne => ?_, ?_, ?_⟩
    · -- the entries are in touch order, and the first is older than the rest
      rw [hentries] at he
      exact List.rel_of_pairwise_cons hrec ((List.mem_cons.mp he).resolve_left hne)
    · rw [hput, hentries, List.erase_cons_head, List.tail_cons]
    · rw [hput]

/-! ## A cache of no capacity -/

theorem get_of_capacity_nonpos (hc : c.capacity ≤ 0) {key : CacheKey} {current : Versions} :
    c.get key current = (none, c) := by
  have hoff : c.enabled = false := by simpa [enabled] using hc
  simp [get, hoff]

theorem put_of_capacity_nonpos (hc : c.capacity ≤ 0) {key : CacheKey} {verdict : Verdict}
    {versions : Versions} : c.put key verdict versions = c := by
  have hoff : c.enabled = false := by simpa [enabled] using hc
  simp [put, hoff]

/-- With no capacity, no operation changes an empty cache. -/
theorem perform_empty_of_nonpos (hN : N ≤ 0) :
    ∀ o : CacheOp, (o.perform (empty N)).2 = empty N
  | .put _ _ _ => put_of_capacity_nonpos hN
  | .get _ _ => by rw [CacheOp.perform, get_of_capacity_nonpos hN]
  | .invalidate _ => rfl
  | .clear => rfl

theorem runOps_empty_of_nonpos (hN : N ≤ 0) : ∀ ops : List CacheOp, (empty N).runOps ops = empty N
  | [] => rfl
  | o :: ops => by
    show ((o.perform (empty N)).2).runOps ops = empty N
    rw [perform_empty_of_nonpos hN o]
    exact runOps_empty_of_nonpos hN ops

end VerdictCache

open VerdictCache in
/-- The verdict cache is a version-checked least-recently-used map with counters. Run any
lookups, stores, invalidations and clears on a new cache of capacity `N`. With no capacity the
cache stays empty, every lookup returns nothing and no counter moves. Otherwise the cache holds
at most `N` entries, each with the verdict and versions of the last store of its key, in the
order of their last touch (by a store, or by a lookup that found the key); its counters count
the lookups that returned a verdict, those that did not, and the stores that pushed out an
entry, since the last clear; and the next operation obeys `NextLaws`: a lookup returns a verdict
exactly when the key is present and its last store had the versions asked for, and then that
store's verdict, while an entry with other versions is dropped; a store of a present key
replaces and refreshes its entry; and a store of a new key into a full cache evicts the least
recently touched entry. -/
theorem verdictCache_lru (N : Int) (ops : List CacheOp) :
    (N ≤ 0 → (empty N).runOps ops = empty N ∧
      ∀ key current, (empty N).get key current = (none, empty N)) ∧
    (0 < N → Lru N ops ((empty N).history ops) ((empty N).runOps ops) ∧
      NextLaws N ops ((empty N).history ops) ((empty N).runOps ops)) :=
  ⟨fun hN => ⟨runOps_empty_of_nonpos hN ops, fun _ _ => get_of_capacity_nonpos hN⟩,
    fun hN => ⟨lru_runOps hN ops, (lru_runOps hN ops).next hN⟩⟩

/-- Two keys stored in a cache of capacity two, the first looked up again: a fuller cache
would evict the second. -/
example :
    ((VerdictCache.empty 2).runOps
      [.put ("/a", false) ⟨true, none⟩ [("r", 1)], .put ("/b", false) ⟨true, none⟩ [("r", 1)],
        .get ("/a", false) [("r", 1)], .put ("/c", false) ⟨false, none⟩ [("r", 2)]]).entries.map
      (·.key) = [("/a", false), ("/c", false)] := by
  decide

open VerdictCache in
/-- The laws at a cache of no capacity and at one of capacity two after two stores and a
lookup. -/
theorem verdictCache_lru_two_keys :
    let ops := [CacheOp.put ("/a", false) ⟨true, none⟩ [("r", 1)],
      .put ("/b", false) ⟨true, none⟩ [("r", 1)], .get ("/a", false) [("r", 1)]]
    ((0 : Int) ≤ 0 ∧ (empty 0).runOps ops = empty 0 ∧
        ∀ key current, (empty 0).get key current = (none, empty 0)) ∧
      ((0 : Int) < 2 ∧ Lru 2 ops ((empty 2).history ops) ((empty 2).runOps ops) ∧
        NextLaws 2 ops ((empty 2).history ops) ((empty 2).runOps ops)) :=
  ⟨⟨Int.le_refl 0, (verdictCache_lru 0 _).1 (Int.le_refl 0)⟩,
    ⟨by decide, (verdictCache_lru 2 _).2 (by decide)⟩⟩

end IgnoreRules
