import IgnoreRules.Proofs.Unchanged
import IgnoreRules.Proofs.Walk

/-!
# The managers that their own operations reach

A manager changes its registry and its cache only through its own operations (manager.py:69–110,
123–195, 228–329, 374–376 and 406–491): it is created empty and may load its rule files; it
publishes a rule set and drops the verdicts of its file; it removes one; it reloads everything and
swaps it in at once; and it stores verdicts as queries resolve paths. `Manager.Reachable` is every
manager that these operations reach from `Manager.createWith`, changes of the source and closing
included.

Every reachable manager is `Manager.Consistent`:
- its registry and its cache are a state that a resolver session reaches (`SessionReachable`), so
  the dependency index lists every cached key under each id its verdict depends on;
- every cached verdict is the verdict, computed without the cache, over rule sets registered now;
- every registered rule set has a version below the next one to be handed out.

An operation that replaces or drops a rule set drops the verdicts listed under its id, so the
verdicts it leaves depend on other ids only, whose rule sets stay. A reload drops fewer: it keeps a
verdict whose every id still has a rule set of the version the verdict recorded. That rule set is
the one registered before, and this is where the third fact is needed: a rule set built afresh has
a version never handed out before.

## Main statements

- `Manager.swapIn_consistent`: the swap of a reload keeps the invariant.
- `Manager.Reachable.consistent`: every reachable manager keeps it.
- `Manager.Reachable.sessionReachable`, `Manager.Reachable.cacheSound`: the cache of a reachable
  manager is one that resolutions drive, and its verdicts are right. These are the hypotheses of
  `unchanged_contents_keep_rule_sets` and of `iterFiles_exact`.
- `Manager.Preserves.iterFiles`, `Manager.Reachable.queries`: a query built from `resolveAt`,
  such as a walk, keeps whatever `resolveAt` keeps, and so it leaves a reachable manager reachable.
-/

namespace IgnoreRules

namespace Registry

variable {r : Registry} {x : RuleSet}

theorem mem_ruleSets_iff : x ∈ r.ruleSets ↔ r.get? x.id = some x := by
  rw [get?_eq_some_iff]
  exact ⟨fun h => ⟨h, rfl⟩, And.left⟩

/-- Registering a rule set keeps those of the other ids. -/
theorem mem_register_of_ne (hx : x ∈ r.ruleSets) {rs : RuleSet} (hne : x.id ≠ rs.id) :
    x ∈ (r.register rs).2.ruleSets := by
  rw [mem_ruleSets_iff, get?_register, if_neg (Ne.symm hne)]
  exact mem_ruleSets_iff.mp hx

/-- Removing the rule set of an id keeps those of the other ids. -/
theorem mem_unregister_of_ne (hx : x ∈ r.ruleSets) {id : String} (hne : x.id ≠ id) :
    x ∈ (r.unregister id).2.ruleSets := by
  rw [mem_ruleSets_iff, get?_unregister, if_neg (Ne.symm hne)]
  exact mem_ruleSets_iff.mp hx

/-- After a swap, only rule sets swapped in are registered. -/
theorem mem_of_mem_replaceAll {L : List RuleSet} (hx : x ∈ (r.replaceAll L).2.ruleSets) :
    x ∈ L :=
  (mem_foldl_upsert L [] hx).resolve_left List.not_mem_nil

end Registry

/-- Invalidating the ids of rule sets one after another leaves a state of a session. -/
theorem SessionReachable.foldl_invalidate {ic : Bool} {U : RuleSet → Prop} {r : Registry} :
    ∀ (olds : List RuleSet) {c : VerdictCache}, SessionReachable ic U r c →
      SessionReachable ic U r (olds.foldl (fun c old => (c.invalidate old.id).2) c)
  | [], _, h => h
  | old :: olds, _, h => foldl_invalidate olds (.invalidate old.id h)

/-- A sound entry stays sound over other rule sets, as long as those of its ids stay. -/
theorem EntrySound.of_mem_ids {ic : Bool} {U U' : RuleSet → Prop} {e : CacheEntry}
    (h : EntrySound ic U e) (hU : ∀ x, U x → x.id ∈ e.versions.map (·.1) → U' x) :
    EntrySound ic U' e := by
  obtain ⟨p, A, hp, hkey, hA, hversions, hverdict⟩ := h
  refine ⟨p, A, hp, hkey, fun x hx => hU x (hA x hx) ?_, hversions, hverdict⟩
  rw [hversions]
  exact List.mem_map.mpr ⟨(x.id, x.version), List.mem_map_of_mem hx, rfl⟩

namespace Manager

/-- What a manager keeps of its registry, its cache and its supply of versions. -/
structure Consistent (m : Manager) : Prop where
  session : SessionReachable m.resolver.ignoreCase (fun _ => True) m.registry m.cache
  sound : CacheSound m.resolver.ignoreCase (· ∈ m.registry.ruleSets) m.cache
  versions_lt : ∀ rs ∈ m.registry.ruleSets, rs.version < m.nextVersion

variable {m : Manager}

theorem Consistent.covers (h : m.Consistent) : m.cache.Covers := h.session.index_exact.1

/-! ## One operation at a time -/

theorem createWith_empty_consistent (homes : List (String × String)) (root : PosixPath)
    (config : Config) (source : RuleFileSource) (disk : FileTree) (nextVersion : Nat) :
    (createWith homes root config source disk false nextVersion).Consistent :=
  ⟨.start config.cacheSize, CacheSound.empty _, fun _ h => absurd h List.not_mem_nil⟩

/-- Handing out versions keeps every registered one below the next. -/
theorem Consistent.bump (h : m.Consistent) {v : Nat} (hv : m.nextVersion ≤ v) :
    ({ m with nextVersion := v } : Manager).Consistent :=
  ⟨h.session, h.sound, fun rs hrs => Nat.lt_of_lt_of_le (h.versions_lt rs hrs) hv⟩

/-- Invalidating an id leaves verdicts that depend on other ids only, so they stay sound over any
rule sets that keep those of the other ids. -/
theorem Consistent.sound_invalidate (h : m.Consistent) {id : String} {r : Registry}
    (hr : ∀ x ∈ m.registry.ruleSets, x.id ≠ id → x ∈ r.ruleSets) :
    CacheSound m.resolver.ignoreCase (· ∈ r.ruleSets) (m.cache.invalidate id).2 := by
  have hcov := h.covers
  intro e he
  obtain ⟨he, hkey⟩ := ((hcov.invalidate_spec id).1 e).mp he
  refine (h.sound e he).of_mem_ids fun x hx hid => hr x hx fun hxid => ?_
  exact hkey (hcov.listed e he id (hxid ▸ hid))

theorem run_publish (rs : RuleSet) :
    ((publish rs).run m).2 =
      { m with registry := (m.registry.register rs).2, cache := (m.cache.invalidate rs.id).2 } :=
  rfl

/-- Publishing a rule set of a version already handed out keeps the invariant. -/
theorem publish_consistent (h : m.Consistent) (rs : RuleSet) (hrs : rs.version < m.nextVersion) :
    ((publish rs).run m).2.Consistent := by
  rw [run_publish]
  exact ⟨.invalidate rs.id (.register rs trivial h.session),
    h.sound_invalidate fun _ hx hne => Registry.mem_register_of_ne hx hne,
    Registry.forall_mem_register h.versions_lt hrs⟩

theorem onRuleFileRemoved_consistent (h : m.Consistent) (path : String) :
    ((onRuleFileRemoved path).run m).2.Consistent := by
  rw [run_onRuleFileRemoved]
  exact ⟨.invalidate _ (.unregister _ h.session),
    h.sound_invalidate fun _ hx hne => Registry.mem_unregister_of_ne hx hne,
    Registry.forall_mem_unregister h.versions_lt _⟩

/-- A rule set built afresh takes the next version, and publishing it keeps the invariant. -/
theorem publish_fresh_consistent (h : m.Consistent) (rs : RuleSet)
    (hv : rs.version = m.nextVersion) :
    ((publish rs).run { m with nextVersion := m.nextVersion + 1 }).2.Consistent :=
  publish_consistent (h.bump (Nat.le_succ m.nextVersion)) rs (Nat.lt_succ_of_le hv.le)

theorem rebuild_consistent (h : m.Consistent) (id contents : String) :
    ((onRuleFileChanged.rebuild contents id).run m).2.Consistent := by
  rw [run_rebuild]
  exact publish_fresh_consistent h _ (by rfl)

theorem onRuleFileChanged_consistent (h : m.Consistent) (path contents : String) :
    ((onRuleFileChanged path contents).run m).2.Consistent := by
  simp only [onRuleFileChanged, StateT.run_bind, StateT.run_get, pure_bind]
  generalize (m.absolute path).toString = id
  cases m.registry.get? id with
  | none => exact rebuild_consistent h id contents
  | some current =>
    dsimp only
    split
    · exact h
    · exact rebuild_consistent h id contents

theorem notifyFileChanged_consistent (h : m.Consistent) (path : String) :
    ((notifyFileChanged path).run m).2.Consistent := by
  simp only [notifyFileChanged, StateT.run_bind, StateT.run_get, pure_bind]
  generalize (m.absolute path).toString = id
  by_cases hrule : m.isRuleFile id = true
  · by_cases hpresent : m.source.present m.disk id = true
    · rw [if_pos hrule, if_neg (by simp [hpresent])]
      cases m.source.read m.disk id with
      | error reason =>
        -- an unreadable file is published as a rule set of the next version
        exact publish_fresh_consistent h _ (by rfl)
      | ok contents => exact onRuleFileChanged_consistent h id contents
    · rw [if_pos hrule, if_pos (by simp [hpresent])]
      exact onRuleFileRemoved_consistent h id
  · rw [if_neg hrule]
    exact h

theorem forM_notifyFileChanged_consistent :
    ∀ (paths : List String) {m : Manager}, m.Consistent →
      ((paths.forM notifyFileChanged).run m).2.Consistent
  | [], _, h => h
  | path :: paths, _, h =>
    forM_notifyFileChanged_consistent paths (notifyFileChanged_consistent h path)

theorem notifyDirectoryChanged_consistent (h : m.Consistent) (dir : String) :
    ((notifyDirectoryChanged dir).run m).2.Consistent := by
  rw [run_notifyDirectoryChanged]
  exact forM_notifyFileChanged_consistent _ h

theorem changeSource_consistent (h : m.Consistent) (change : RuleFileSource → RuleFileSource)
    (path : String) : ((changeSource change path).run m).2.Consistent := by
  -- the source is no part of the invariant
  have hchanged : ({ m with source := change m.source } : Manager).Consistent :=
    ⟨h.session, h.sound, h.versions_lt⟩
  show ((if ({ m with source := change m.source } : Manager).listening = true then
    notifyFileChanged path else pure ()).run { m with source := change m.source }).2.Consistent
  split
  · exact notifyFileChanged_consistent hchanged path
  · exact hchanged

theorem close_consistent (h : m.Consistent) : (close.run m).2.Consistent :=
  ⟨h.session, h.sound, h.versions_lt⟩

/-- A resolution through the cache stores only verdicts that are right. -/
theorem resolveAt_consistent (h : m.Consistent) (p : PosixPath) (isDirectory : Bool) :
    ((resolveAt p isDirectory).run.run m).2.Consistent := by
  rw [run_resolveAt_eq]
  exact ⟨.resolve p.toString isDirectory true h.session,
    (m.resolve_faithful p isDirectory m.cache h.sound).2, h.versions_lt⟩

/-! ## A reload -/

/-- A rule set read on `m` in a run that ends on `m'`: one that `m` registers, or one built
afresh, with a version that `m` had not handed out and `m'` has. -/
def BuiltFrom (m m' : Manager) (rs : RuleSet) : Prop :=
  rs ∈ m.registry.ruleSets ∨ (m.nextVersion ≤ rs.version ∧ rs.version < m'.nextVersion)

theorem BuiltFrom.mono {m₁ m₂ : Manager} {rs : RuleSet} (h : BuiltFrom m m₁ rs)
    (hle : m₁.nextVersion ≤ m₂.nextVersion) : BuiltFrom m m₂ rs :=
  h.imp_right fun hv => ⟨hv.1, Nat.lt_of_lt_of_le hv.2 hle⟩

/-- A rule set built from a manager that has the registry of `m` and has only taken versions
since is built from `m`. -/
theorem BuiltFrom.of_taken {m₁ m₂ : Manager} {rs : RuleSet} (h : BuiltFrom m₁ m₂ rs)
    (hreg : m₁.registry = m.registry) (hle : m.nextVersion ≤ m₁.nextVersion) :
    BuiltFrom m m₂ rs :=
  h.imp (fun hrs => hreg ▸ hrs) fun hv => ⟨Nat.le_trans hle hv.1, hv.2⟩

/-- A read on `m` that ends on `m'` and gives `rs`: it keeps the registry, only takes versions,
and `rs` is built from `m`. -/
structure TakesVersions (m m' : Manager) (rs : RuleSet) : Prop where
  registry : m'.registry = m.registry
  le : m.nextVersion ≤ m'.nextVersion
  built : BuiltFrom m m' rs

/-- A rule set built afresh has the version that `m` hands out next. -/
theorem takesVersions_fresh {rs : RuleSet} (hv : rs.version = m.nextVersion) :
    TakesVersions m { m with nextVersion := m.nextVersion + 1 } rs :=
  ⟨rfl, Nat.le_succ _, .inr ⟨hv.ge, Nat.lt_succ_of_le hv.le⟩⟩

/-- A rule set kept from the registry takes no version. -/
theorem takesVersions_registered {id : String} {current : RuleSet}
    (hget : m.registry.get? id = some current) : TakesVersions m m current :=
  ⟨rfl, Nat.le_refl _, .inl ((Registry.get?_eq_some_iff _).mp hget).1⟩

theorem readRuleSet_takesVersions (m : Manager) (id : String) :
    TakesVersions m ((readRuleSet id).run m).2 ((readRuleSet id).run m).1 := by
  simp only [readRuleSet, StateT.run_bind, StateT.run_get, pure_bind]
  cases m.source.read m.disk id with
  | error reason =>
    rw [run_unreadableRuleSet]
    exact takesVersions_fresh rfl
  | ok contents =>
    cases hget : m.registry.get? id with
    | none =>
      rw [run_parseRuleFile]
      exact takesVersions_fresh rfl
    | some current =>
      dsimp only
      by_cases hsame : (current.digest == contentDigest contents) = true
      · rw [if_pos hsame]
        exact takesVersions_registered hget
      · rw [if_neg hsame, run_parseRuleFile]
        exact takesVersions_fresh rfl

theorem defaultsRuleSet_takesVersions (m : Manager) :
    TakesVersions m (defaultsRuleSet.run m).2 (defaultsRuleSet.run m).1 := by
  unfold defaultsRuleSet
  rw [StateT.run_bind, StateT.run_get, pure_bind]
  dsimp only
  cases hget : m.registry.get? defaultsId with
  | none =>
    rw [run_defaultsRuleSet_build]
    exact takesVersions_fresh rfl
  | some current =>
    dsimp only
    split
    · exact takesVersions_registered hget
    · rw [run_defaultsRuleSet_build]
      exact takesVersions_fresh rfl

/-- Reads one after another keep the registry, only take versions, and build every rule set
they give from the manager they start on. -/
theorem mapM_takesVersions {α : Type} (g : α → StateM Manager RuleSet)
    (hg : ∀ a m, TakesVersions m ((g a).run m).2 ((g a).run m).1) (l : List α) (m : Manager) :
    ((l.mapM g).run m).2.registry = m.registry ∧
      m.nextVersion ≤ ((l.mapM g).run m).2.nextVersion ∧
      ∀ rs ∈ ((l.mapM g).run m).1, BuiltFrom m ((l.mapM g).run m).2 rs := by
  induction l generalizing m with
  | nil => exact ⟨rfl, Nat.le_refl _, fun _ h => absurd h List.not_mem_nil⟩
  | cons a l ih =>
    have hread := hg a m
    obtain ⟨hreg, hle, hall⟩ := ih ((g a).run m).2
    rw [run_mapM_cons]
    refine ⟨hreg.trans hread.registry, Nat.le_trans hread.le hle, fun rs hrs => ?_⟩
    rcases List.mem_cons.mp hrs with rfl | hrs
    · exact hread.built.mono hle
    · exact (hall rs hrs).of_taken hread.registry hread.le

/-- A reload reads its rule sets on a manager with the setup, the registry and the cache of `m`
that has only taken versions, and swaps them in; each is built from `m`. -/
theorem loadRuleFiles_takesVersions (m : Manager) :
    ∃ (r : Manager) (L : List RuleSet), r.config = m.config ∧ r.registry = m.registry ∧
      r.cache = m.cache ∧ m.nextVersion ≤ r.nextVersion ∧ (∀ rs ∈ L, BuiltFrom m r rs) ∧
      (loadRuleFiles.run m).2 = r.swapIn L := by
  have hrun := run_loadRuleFiles_swapIn m
  dsimp only at hrun
  obtain ⟨hd, -, hd_cache, -⟩ := defaultsRuleSet_state m
  have hd_taken := defaultsRuleSet_takesVersions m
  generalize defaultsRuleSet.run m = d at hrun hd hd_cache hd_taken
  obtain ⟨ho, -, ho_cache, -, -⟩ := mapM_reads readRuleSet (fun p => p)
    (fun a m => readRuleSet_reads m a) (d.2.outerFiles.filter (d.2.source.present d.2.disk)) d.2
  obtain ⟨ho_reg, ho_le, ho_built⟩ := mapM_takesVersions readRuleSet
    (fun a m => readRuleSet_takesVersions m a)
    (d.2.outerFiles.filter (d.2.source.present d.2.disk)) d.2
  generalize ((d.2.outerFiles.filter (d.2.source.present d.2.disk)).mapM readRuleSet).run d.2 = o
    at hrun ho ho_cache ho_reg ho_le ho_built
  obtain ⟨hf, -, hf_cache, -, -⟩ := mapM_reads
    (fun p => readRuleSet (PosixPath.normalize p).toString)
    (fun p => (PosixPath.normalize p).toString)
    (fun a m => readRuleSet_reads m _) (d.2.source.discover d.2.disk none) o.2
  obtain ⟨hf_reg, hf_le, hf_built⟩ := mapM_takesVersions
    (fun p => readRuleSet (PosixPath.normalize p).toString)
    (fun a m => readRuleSet_takesVersions m _) (d.2.source.discover d.2.disk none) o.2
  generalize ((d.2.source.discover d.2.disk none).mapM fun p =>
    readRuleSet (PosixPath.normalize p).toString).run o.2 = f
    at hrun hf hf_cache hf_reg hf_le hf_built
  -- the reads after the defaults start on managers with the registry of `m`
  have ho_reg' : o.2.registry = m.registry := ho_reg.trans hd_taken.registry
  have ho_le' : m.nextVersion ≤ o.2.nextVersion := Nat.le_trans hd_taken.le ho_le
  refine ⟨f.2, _, (hd.trans (ho.trans hf)).config, hf_reg.trans ho_reg',
    hf_cache.trans (ho_cache.trans hd_cache), Nat.le_trans ho_le' hf_le, fun rs hrs => ?_, hrun⟩
  rcases List.mem_append.mp hrs with hrs | hrs
  · rcases List.mem_append.mp hrs with hrs | hrs
    · have hd_rs : rs = d.1 := by
        split at hrs
        · exact absurd hrs List.not_mem_nil
        · exact List.mem_singleton.mp hrs
      subst hd_rs
      exact (hd_taken.built.mono ho_le).mono hf_le
    · exact ((ho_built rs hrs).of_taken hd_taken.registry hd_taken.le).mono hf_le
  · exact (hf_built rs hrs).of_taken ho_reg' ho_le'

/-- The swap of a reload keeps the invariant when it swaps in rule sets built from `m` on a
manager with the registry and the cache of `m` that has only taken versions. A verdict the swap
keeps has, for every id it depends on, a rule set of the version it recorded; that rule set is
the one registered before, since a rule set built afresh has a version never handed out. -/
theorem swapIn_consistent (h : m.Consistent) {r : Manager} {L : List RuleSet}
    (hconfig : r.config = m.config) (hreg : r.registry = m.registry) (hcache : r.cache = m.cache)
    (hle : m.nextVersion ≤ r.nextVersion) (hL : ∀ rs ∈ L, BuiltFrom m r rs) :
    (r.swapIn L).Consistent := by
  have hic : (r.swapIn L).resolver.ignoreCase = m.resolver.ignoreCase :=
    congrArg (fun c => c.ignoreCase.holds) hconfig
  have hcov : r.cache.Covers := hcache ▸ h.covers
  -- a rule set registered after the swap under the id of one registered before, with its
  -- version, is that one
  have hsame : ∀ old ∈ m.registry.ruleSets, ∀ now,
      (r.swapIn L).registry.get? old.id = some now → now.version = old.version → now = old := by
    intro old hold now hnow hversion
    obtain ⟨hmem, hid⟩ := (Registry.get?_eq_some_iff _).mp hnow
    rcases hL now (Registry.mem_of_mem_replaceAll hmem) with hnow | ⟨hge, -⟩
    · exact List.inj_on_of_nodup_map m.registry.indexes.ids_nodup hnow hold hid
    · exact absurd (hversion ▸ hge) (Nat.not_le.mpr (h.versions_lt old hold))
  refine ⟨?_, fun e he => ?_, fun x hx => ?_⟩
  · have hsession : SessionReachable r.resolver.ignoreCase (fun _ => True) r.registry r.cache := by
      rw [show r.resolver.ignoreCase = m.resolver.ignoreCase from hic, hreg, hcache]
      exact h.session
    exact SessionReachable.foldl_invalidate _ (.replaceAll L (fun _ _ => trivial) hsession)
  · obtain ⟨he, hkeep⟩ := (mem_cache_swapIn hcov L e).mp he
    rw [hic]
    refine (h.sound e (hcache ▸ he)).of_mem_ids fun x hx hid => ?_
    -- the swap kept the verdict, so the id has a rule set of the recorded version
    have hkept : ((r.swapIn L).registry.get? x.id).map RuleSet.version = some x.version :=
      not_not.mp fun hne => hkeep x (hreg ▸ hx) hne (hcov.listed e he x.id hid)
    obtain ⟨now, hnow, hversion⟩ := Option.map_eq_some_iff.mp hkept
    rw [hsame x hx now hnow hversion] at hnow
    exact ((Registry.get?_eq_some_iff _).mp hnow).1
  · rcases hL x (Registry.mem_of_mem_replaceAll hx) with hx | ⟨-, hlt⟩
    · exact Nat.lt_of_lt_of_le (h.versions_lt x hx) hle
    · exact hlt

theorem reload_consistent (h : m.Consistent) : (reloadAll.run m).2.Consistent := by
  obtain ⟨r, L, hconfig, hreg, hcache, hle, hL, hrun⟩ := loadRuleFiles_takesVersions m
  show (loadRuleFiles.run m).2.Consistent
  rw [hrun]
  exact swapIn_consistent h hconfig hreg hcache hle hL

theorem createWith_consistent (homes : List (String × String)) (root : PosixPath)
    (config : Config) (source : RuleFileSource) (disk : FileTree) (autoDiscover : Bool)
    (nextVersion : Nat) :
    (createWith homes root config source disk autoDiscover nextVersion).Consistent := by
  have hempty := createWith_empty_consistent homes root config source disk nextVersion
  cases autoDiscover with
  | false => exact hempty
  | true => exact reload_consistent hempty

/-! ## Queries -/

section Queries

variable {α β : Type} {P : Manager → Prop}

/-- A program keeps a property of managers when, run on one that has it, it leaves one that has
it, whether it answers or fails. -/
def Preserves (P : Manager → Prop) (prog : Engine α) : Prop :=
  ∀ m, P m → P (prog.run.run m).2

namespace Preserves

theorem pure (a : α) : Preserves P (Pure.pure a : Engine α) := fun _ h => h

theorem get_bind {f : Manager → Engine α} (hf : ∀ m, Preserves P (f m)) :
    Preserves P (get >>= f) :=
  fun m h => by
    rw [run_bind_get]
    exact hf m m h

theorem bind {x : Engine α} {f : α → Engine β} (hx : Preserves P x)
    (hf : ∀ a, Preserves P (f a)) : Preserves P (x >>= f) := by
  intro m h
  have hstate := hx m h
  rw [run_bind_engine]
  rcases hrun : x.run.run m with ⟨_ | a, m'⟩
  · rw [hrun] at hstate
    exact hstate
  · rw [hrun] at hstate
    exact hf a m' hstate

theorem filterM {f : α → Engine Bool} (hf : ∀ a, Preserves P (f a)) (l : List α) :
    Preserves P (l.filterM f) := by
  -- the loop under the filter, from any accumulator
  have hloop : ∀ acc, Preserves P (List.filterAuxM f l acc) := by
    induction l with
    | nil => exact fun acc => by rw [List.filterAuxM]; exact pure acc
    | cons a l ih =>
      intro acc
      rw [List.filterAuxM]
      exact (hf a).bind fun _ => ih _
  rw [List.filterM]
  exact (hloop []).bind fun _ => pure _

theorem mapM {f : α → Engine β} (hf : ∀ a, Preserves P (f a)) (l : List α) :
    Preserves P (l.mapM f) := by
  induction l with
  | nil => exact pure []
  | cons a l ih =>
    rw [List.mapM_cons]
    exact (hf a).bind fun _ => ih.bind fun _ => pure _

variable (hq : ∀ p isDirectory, Preserves P (resolveAt p isDirectory))
include hq

/-- A test of the walk answers through one query. -/
theorem keepTest (p : PosixPath) (isDirectory : Bool) :
    Preserves P (resolveAt p isDirectory >>= fun v => Pure.pure !v.ignored) :=
  (hq p isDirectory).bind fun _ => pure _

theorem filesFrom (disk : FileTree) (fuel : Nat) (dir : PosixPath) :
    Preserves P (Manager.filesFrom disk fuel dir) := by
  induction fuel generalizing dir with
  | zero =>
    rw [Manager.filesFrom]
    exact pure []
  | succ fuel ih =>
    rw [Manager.filesFrom]
    exact (filterM (fun d => keepTest hq (dir.child d) true) _).bind fun kept =>
      (filterM (fun f => keepTest hq (dir.child f) false) _).bind fun _ =>
        (mapM (fun d => ih (dir.child d)) kept).bind fun _ => pure _

/-- The walk keeps whatever its queries keep. -/
theorem iterFiles (start : Option String) : Preserves P (Manager.iterFiles start) :=
  get_bind fun _ => filesFrom hq _ _ _

theorem resolve (path : String) (isDirectory : Bool) :
    Preserves P (Manager.resolve path isDirectory) :=
  get_bind fun m => hq (m.absolute path) isDirectory

theorem shouldIgnore (path : String) (isDirectory : Option Bool) :
    Preserves P (Manager.shouldIgnore path isDirectory) :=
  get_bind fun _ => (hq _ _).bind fun _ => pure _

theorem filterPaths (paths : List String) (isDirectory : Bool) :
    Preserves P (Manager.filterPaths paths isDirectory) :=
  filterM (fun _ => (resolve hq _ isDirectory).bind fun _ => pure _) paths

end Preserves

end Queries

/-! ## Reachable managers -/

/-- The managers that their own operations reach from `createWith`: new contents of a rule file, a
removed rule file, notifications of a file or a directory, reloads, changes of the source,
closing, and resolutions through the cache. -/
inductive Reachable : Manager → Prop where
  | start (homes : List (String × String)) (root : PosixPath) (config : Config)
      (source : RuleFileSource) (disk : FileTree) (autoDiscover : Bool) (nextVersion : Nat) :
      Reachable (createWith homes root config source disk autoDiscover nextVersion)
  | changed {m : Manager} (path contents : String) :
      Reachable m → Reachable ((onRuleFileChanged path contents).run m).2
  | removed {m : Manager} (path : String) :
      Reachable m → Reachable ((onRuleFileRemoved path).run m).2
  | notify {m : Manager} (path : String) :
      Reachable m → Reachable ((notifyFileChanged path).run m).2
  | notifyDirectory {m : Manager} (dir : String) :
      Reachable m → Reachable ((notifyDirectoryChanged dir).run m).2
  | reload {m : Manager} : Reachable m → Reachable (reloadAll.run m).2
  | changeSource {m : Manager} (change : RuleFileSource → RuleFileSource) (path : String) :
      Reachable m → Reachable ((changeSource change path).run m).2
  | close {m : Manager} : Reachable m → Reachable (close.run m).2
  | query {m : Manager} (p : PosixPath) (isDirectory : Bool) :
      Reachable m → Reachable ((resolveAt p isDirectory).run.run m).2

/-- Every manager that its own operations reach keeps its registry, its cache and its supply of
versions consistent. -/
theorem Reachable.consistent (h : m.Reachable) : m.Consistent := by
  induction h with
  | start homes root config source disk autoDiscover nextVersion =>
    exact createWith_consistent homes root config source disk autoDiscover nextVersion
  | changed path contents _ ih => exact onRuleFileChanged_consistent ih path contents
  | removed path _ ih => exact onRuleFileRemoved_consistent ih path
  | notify path _ ih => exact notifyFileChanged_consistent ih path
  | notifyDirectory dir _ ih => exact notifyDirectoryChanged_consistent ih dir
  | reload _ ih => exact reload_consistent ih
  | changeSource change path _ ih => exact changeSource_consistent ih change path
  | close _ ih => exact close_consistent ih
  | query p isDirectory _ ih => exact resolveAt_consistent ih p isDirectory

/-- The cache of a reachable manager is one that resolutions drive over its registry, so its
dependency index is exact, and a reload keeps exactly the verdicts of the rule sets it keeps. -/
theorem Reachable.sessionReachable (h : m.Reachable) :
    SessionReachable m.resolver.ignoreCase (fun _ => True) m.registry m.cache :=
  h.consistent.session

/-- The cached verdicts of a reachable manager are right for its rule sets, so its queries answer
as the rule sets do and a walk yields exactly the files they keep. -/
theorem Reachable.cacheSound (h : m.Reachable) :
    CacheSound m.resolver.ignoreCase (· ∈ m.registry.ruleSets) m.cache :=
  h.consistent.sound

/-- The queries of a reachable manager leave it reachable: a walk, a filter of paths, and the
verdict of one path. -/
theorem Reachable.queries (h : m.Reachable) (start : Option String) (paths : List String)
    (path : String) (isDirectory : Bool) (kind : Option Bool) :
    ((iterFiles start).run.run m).2.Reachable ∧
      ((filterPaths paths isDirectory).run.run m).2.Reachable ∧
      ((resolve path isDirectory).run.run m).2.Reachable ∧
      ((shouldIgnore path kind).run.run m).2.Reachable := by
  have hq : ∀ p isDirectory, Preserves Reachable (resolveAt p isDirectory) :=
    fun p isDirectory _ hm => .query p isDirectory hm
  exact ⟨Preserves.iterFiles hq start m h, Preserves.filterPaths hq paths isDirectory m h,
    Preserves.resolve hq path isDirectory m h, Preserves.shouldIgnore hq path kind m h⟩

end Manager

end IgnoreRules
