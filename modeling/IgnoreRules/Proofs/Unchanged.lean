import IgnoreRules.Proofs.Reload
import IgnoreRules.Proofs.ExactIndex

/-!
# Unchanged contents keep their rule sets

A rule set carries the digest of the text it was built from, and the manager compares digests before
it builds (manager.py:228–250 and 438–448): contents with the digest of the registered rule set
change nothing. Told of such contents, through `onRuleFileChanged` or through a notification while
the source holds them, the manager is left exactly as it was: its registry with the generation, its
cache with the counters, and its supply of versions.

A reload reads every rule file again and swaps all rule sets in at once, publishing one
generation. Each rule file it reads with unchanged contents keeps its registered rule set, the
very same one with its version. So do the default patterns, unless a rule file it reads has their
id: that file's rule set is swapped in after them and takes the id. The cache then drops exactly
the verdicts listed under the rule sets that were replaced or dropped. Where the index is exact,
as on every cache that resolutions drive, a verdict that depends only on rule sets kept stays.

- `onRuleFileChanged_of_unchanged`, `notifyFileChanged_of_unchanged`: nothing changes.
- `Manager.swapIn`: the last step of a reload; `loadRuleFiles_swaps` says what it swaps in.
- `get?_reload_of_unchanged`, `get?_reload_defaults`, `generation_reload`,
  `mem_reload_cache_iff`: what a reload keeps.
- `unchanged_contents_keep_rule_sets`: all of it.
-/

namespace IgnoreRules

theorem RuleSet.digest_ofText (v : Nat) (id : String) (baseDir : PosixPath) (contents : String)
    (origin : Origin) (maxPatterns : Int) :
    (RuleSet.ofText v id baseDir contents origin maxPatterns).digest = contentDigest contents := rfl

namespace Manager

variable {m : Manager}

/-! ## Contents told again -/

/-- Contents with the digest of the registered rule set return it and change nothing. -/
theorem onRuleFileChanged_of_unchanged {path contents : String} {current : RuleSet}
    (hget : m.registry.get? (m.absolute path).toString = some current)
    (hsame : current.digest = contentDigest contents) :
    (onRuleFileChanged path contents).run m = (current, m) := by
  have hbeq : (current.digest == contentDigest contents) = true := by
    rw [hsame]
    exact beq_self_eq_true _
  simp only [onRuleFileChanged, StateT.run_bind, StateT.run_get, pure_bind]
  rw [hget]
  dsimp only
  rw [if_pos hbeq]
  rfl

/-- A notification of a rule file whose contents in the source have the digest of its registered
rule set changes nothing. -/
theorem notifyFileChanged_of_unchanged (h : m.WellRooted) {path contents : String}
    {current : RuleSet} (hpresent : m.source.present m.disk (m.absolute path).toString = true)
    (hread : m.source.read m.disk (m.absolute path).toString = .ok contents)
    (hget : m.registry.get? (m.absolute path).toString = some current)
    (hsame : current.digest = contentDigest contents) :
    ((notifyFileChanged path).run m).2 = m := by
  have hid := h.absolute_id path
  simp only [notifyFileChanged, StateT.run_bind, StateT.run_get, pure_bind]
  generalize (m.absolute path).toString = id at hid hpresent hread hget ⊢
  by_cases hrule : m.isRuleFile id = true
  · rw [if_pos hrule, if_neg (by simp [hpresent]), hread]
    -- the contents are told under the id, which names itself
    have hget' : m.registry.get? (m.absolute id).toString = some current := by
      rw [hid]
      exact hget
    have hchanged := onRuleFileChanged_of_unchanged hget' hsame
    show ((onRuleFileChanged id contents).run m).2 = m
    rw [hchanged]
  · rw [if_neg hrule]
    rfl

/-! ## Reading rule files again -/

/-- `rs`, read for the rule file `id`, is its registered rule set whenever the source holds
contents with that rule set's digest. -/
def KeepsUnchanged (m : Manager) (id : String) (rs : RuleSet) : Prop :=
  ∀ contents current, m.source.read m.disk id = .ok contents →
    m.registry.get? id = some current → current.digest = contentDigest contents → rs = current

theorem KeepsUnchanged.of_reads {m' : Manager} {id : String} {rs : RuleSet}
    (h : KeepsUnchanged m' id rs) (hs : SameSetup m m') (hreg : m'.registry = m.registry) :
    KeepsUnchanged m id rs := by
  intro contents current hread hget hsame
  exact h contents current (by rw [hs.source, hs.disk]; exact hread) (by rw [hreg]; exact hget)
    hsame

theorem readRuleSet_of_unchanged {id contents : String} {current : RuleSet}
    (hread : m.source.read m.disk id = .ok contents) (hget : m.registry.get? id = some current)
    (hsame : current.digest = contentDigest contents) :
    (readRuleSet id).run m = (current, m) := by
  have hbeq : (current.digest == contentDigest contents) = true := by
    rw [hsame]
    exact beq_self_eq_true _
  simp only [readRuleSet, StateT.run_bind, StateT.run_get, pure_bind]
  rw [hread]
  dsimp only
  rw [hget]
  dsimp only
  rw [if_pos hbeq]
  rfl

theorem readRuleSet_keeps (m : Manager) (id : String) :
    KeepsUnchanged m id ((readRuleSet id).run m).1 := by
  intro contents current hread hget hsame
  rw [readRuleSet_of_unchanged hread hget hsame]

/-- Reading rule files one after another keeps, for each, its registered rule set while its
contents are unchanged. -/
theorem mapM_keeps {α : Type} (g : α → StateM Manager RuleSet) (f : α → String)
    (hg : ∀ a m, Reads m ((g a).run m).2 (f a) ((g a).run m).1 ∧
      KeepsUnchanged m (f a) ((g a).run m).1) :
    ∀ (l : List α) (m : Manager), ∀ rs ∈ ((l.mapM g).run m).1, KeepsUnchanged m rs.id rs
  | [], _ => fun _ h => absurd h List.not_mem_nil
  | a :: l, m => by
    obtain ⟨hread, hkeep⟩ := hg a m
    rw [run_mapM_cons]
    intro rs hrs
    rcases List.mem_cons.mp hrs with rfl | hrs
    · rw [hread.id_eq]
      exact hkeep
    · -- the later reads start from a manager with the same source and registry
      exact (mapM_keeps g f hg l _ rs hrs).of_reads hread.setup hread.registry

/-- The default patterns with the digest of their registered rule set keep it. -/
theorem defaultsRuleSet_of_unchanged {current : RuleSet}
    (hget : m.registry.get? defaultsId = some current)
    (hsame : current.digest = contentDigest ("\n".intercalate m.defaultPatterns)) :
    defaultsRuleSet.run m = (current, m) := by
  have hbeq : (current.digest == contentDigest ("\n".intercalate m.defaultPatterns)) = true := by
    rw [hsame]
    exact beq_self_eq_true _
  unfold defaultsRuleSet
  rw [StateT.run_bind, StateT.run_get, pure_bind]
  dsimp only
  rw [hget]
  dsimp only
  rw [if_pos hbeq]
  rfl

/-- Reading the default patterns keeps the setup, the registry and the cache, and gives a rule
set of their id. -/
theorem defaultsRuleSet_state (m : Manager) :
    SameSetup m (defaultsRuleSet.run m).2 ∧ (defaultsRuleSet.run m).2.registry = m.registry ∧
      (defaultsRuleSet.run m).2.cache = m.cache ∧ (defaultsRuleSet.run m).1.id = defaultsId := by
  unfold defaultsRuleSet
  rw [StateT.run_bind, StateT.run_get, pure_bind]
  dsimp only
  have hbuild : ∀ text, SameSetup m ((defaultsRuleSet.build text).run m).2 ∧
      ((defaultsRuleSet.build text).run m).2.registry = m.registry ∧
      ((defaultsRuleSet.build text).run m).2.cache = m.cache ∧
      ((defaultsRuleSet.build text).run m).1.id = defaultsId := by
    intro text
    rw [run_defaultsRuleSet_build]
    exact ⟨⟨rfl, rfl, rfl, rfl, rfl, rfl⟩, rfl, rfl, rfl⟩
  cases hget : m.registry.get? defaultsId with
  | none => exact hbuild _
  | some current =>
    dsimp only
    split
    · exact ⟨.refl m, rfl, rfl, ((Registry.get?_eq_some_iff _).mp hget).2⟩
    · exact hbuild _

/-! ## The swap -/

/-- Swaps rule sets in at once and invalidates the verdicts of every rule set that was replaced
or dropped: the last step of a reload. -/
def swapIn (m : Manager) (ruleSets : List RuleSet) : Manager :=
  let (previous, registry) := m.registry.replaceAll ruleSets
  let replaced := previous.filter fun old =>
    match registry.get? old.id with
    | some now => now.version != old.version
    | none => true
  { m with registry, cache := replaced.foldl (fun c old => (c.invalidate old.id).2) m.cache }

theorem run_loadRuleFiles_swapIn (m : Manager) :
    let d := defaultsRuleSet.run m
    let outer := ((d.2.outerFiles.filter (d.2.source.present d.2.disk)).mapM readRuleSet).run d.2
    let found := ((d.2.source.discover d.2.disk none).mapM fun p =>
      readRuleSet (PosixPath.normalize p).toString).run outer.2
    (loadRuleFiles.run m).2 =
      found.2.swapIn ((if d.1.patterns.isEmpty then [] else [d.1]) ++ outer.1 ++ found.1) :=
  rfl

theorem registry_swapIn (m : Manager) (ruleSets : List RuleSet) :
    (m.swapIn ruleSets).registry = (m.registry.replaceAll ruleSets).2 := rfl

/-- The swap keeps the verdicts whose key no replaced or dropped rule set lists. -/
theorem mem_cache_swapIn (h : m.cache.Covers) (ruleSets : List RuleSet) (e : CacheEntry) :
    e ∈ (m.swapIn ruleSets).cache.entries ↔ e ∈ m.cache.entries ∧
      ∀ old ∈ m.registry.ruleSets,
        ((m.swapIn ruleSets).registry.get? old.id).map RuleSet.version ≠ some old.version →
          e.key ∉ VerdictCache.dependents m.cache.deps old.id := by
  have hcache : (m.swapIn ruleSets).cache =
      ((m.registry.ruleSets.filter fun old =>
        match (m.swapIn ruleSets).registry.get? old.id with
        | some now => now.version != old.version
        | none => true).map (·.id)).foldl (fun c id => (c.invalidate id).2) m.cache := by
    rw [List.foldl_map]
    rfl
  rw [hcache, h.mem_foldl_invalidate _ e]
  -- a rule set is invalidated exactly when the registry after has another version of it or none
  have hreplaced : ∀ old : RuleSet, (match (m.swapIn ruleSets).registry.get? old.id with
      | some now => now.version != old.version
      | none => true) = true ↔
        ((m.swapIn ruleSets).registry.get? old.id).map RuleSet.version ≠ some old.version := by
    intro old
    cases (m.swapIn ruleSets).registry.get? old.id <;> simp
  simp only [List.mem_map, List.mem_filter, hreplaced]
  constructor
  · rintro ⟨he, hall⟩
    exact ⟨he, fun old hold hne => hall old.id ⟨old, ⟨hold, hne⟩, rfl⟩⟩
  · rintro ⟨he, hall⟩
    refine ⟨he, fun id ⟨old, ⟨hold, hne⟩, hid⟩ => ?_⟩
    rw [← hid]
    exact hall old hold hne

/-- What a reload swaps in: the defaults it reads, when they hold a pattern, and after them the
rule sets of the rule files it reads, in order, each the registered one when its contents are
unchanged. It reads them all on a manager with the setup, registry and cache of `m`. -/
theorem loadRuleFiles_swaps (m : Manager) :
    ∃ (r : Manager) (sources : List RuleSet),
      SameSetup m r ∧ r.registry = m.registry ∧ r.cache = m.cache ∧
      (defaultsRuleSet.run m).1.id = defaultsId ∧
      sources.map (·.id) = m.sourceIds ∧ (∀ rs ∈ sources, KeepsUnchanged m rs.id rs) ∧
      (loadRuleFiles.run m).2 = r.swapIn
        ((if (defaultsRuleSet.run m).1.patterns.isEmpty then [] else [(defaultsRuleSet.run m).1]) ++
          sources) := by
  have hrun := run_loadRuleFiles_swapIn m
  dsimp only at hrun
  obtain ⟨hd, hd_reg, hd_cache, hd_id⟩ := defaultsRuleSet_state m
  generalize defaultsRuleSet.run m = d at hrun hd hd_reg hd_cache hd_id ⊢
  obtain ⟨ho, ho_reg, ho_cache, ho_ids, -⟩ := mapM_reads readRuleSet (fun p => p)
    (fun a m => readRuleSet_reads m a) (d.2.outerFiles.filter (d.2.source.present d.2.disk)) d.2
  have ho_keep := mapM_keeps readRuleSet (fun p => p)
    (fun a m => ⟨readRuleSet_reads m a, readRuleSet_keeps m a⟩)
    (d.2.outerFiles.filter (d.2.source.present d.2.disk)) d.2
  generalize ((d.2.outerFiles.filter (d.2.source.present d.2.disk)).mapM readRuleSet).run d.2 = o
    at hrun ho ho_reg ho_cache ho_ids ho_keep
  obtain ⟨hf, hf_reg, hf_cache, hf_ids, -⟩ := mapM_reads
    (fun p => readRuleSet (PosixPath.normalize p).toString)
    (fun p => (PosixPath.normalize p).toString)
    (fun a m => readRuleSet_reads m _) (d.2.source.discover d.2.disk none) o.2
  have hf_keep := mapM_keeps (fun p => readRuleSet (PosixPath.normalize p).toString)
    (fun p => (PosixPath.normalize p).toString)
    (fun a m => ⟨readRuleSet_reads m _, readRuleSet_keeps m _⟩)
    (d.2.source.discover d.2.disk none) o.2
  generalize ((d.2.source.discover d.2.disk none).mapM fun p =>
    readRuleSet (PosixPath.normalize p).toString).run o.2 = f
    at hrun hf hf_reg hf_cache hf_ids hf_keep
  -- every read keeps the setup, the registry and the cache of `m`
  have hsetup : SameSetup m o.2 := hd.trans ho
  have hreg : o.2.registry = m.registry := ho_reg.trans hd_reg
  refine ⟨f.2, o.1 ++ f.1, hsetup.trans hf, hf_reg.trans hreg,
    hf_cache.trans (ho_cache.trans hd_cache), hd_id, ?_, fun rs hrs => ?_, ?_⟩
  · rw [List.map_append, ho_ids, hf_ids, List.map_id', ← hd.sourceIds]
    rfl
  · rcases List.mem_append.mp hrs with hrs | hrs
    · exact (ho_keep rs hrs).of_reads hd hd_reg
    · exact (hf_keep rs hrs).of_reads hsetup hreg
  · rw [hrun, List.append_assoc]

/-! ## What a reload keeps -/

/-- A reload publishes one generation. -/
theorem generation_reload (m : Manager) :
    (reloadAll.run m).2.registry.generation = m.registry.generation + 1 := by
  obtain ⟨r, sources, -, hreg, -, -, -, -, hrun⟩ := loadRuleFiles_swaps m
  rw [show reloadAll = loadRuleFiles from rfl, hrun, registry_swapIn]
  show r.registry.generation + 1 = _
  rw [hreg]

/-- A rule file a reload reads with unchanged contents keeps its registered rule set, version and
all. -/
theorem get?_reload_of_unchanged {q contents : String} {current : RuleSet} (hq : q ∈ m.sourceIds)
    (hread : m.source.read m.disk q = .ok contents) (hget : m.registry.get? q = some current)
    (hsame : current.digest = contentDigest contents) :
    (reloadAll.run m).2.registry.get? q = some current := by
  obtain ⟨r, sources, -, -, -, -, hids, hkeep, hrun⟩ := loadRuleFiles_swaps m
  rw [show reloadAll = loadRuleFiles from rfl, hrun, registry_swapIn, Registry.get?_replaceAll,
    List.reverse_append, List.find?_append]
  -- the last rule set read with the id is a read of the file, so it is the registered one
  cases hfind : sources.reverse.find? (·.id == q) with
  | none =>
    rw [← hids] at hq
    obtain ⟨rs, hrs, hid⟩ := List.mem_map.mp hq
    exact absurd (beq_iff_eq.mpr hid) (List.find?_eq_none.mp hfind rs (List.mem_reverse.mpr hrs))
  | some rs =>
    have hrs : rs ∈ sources := List.mem_reverse.mp (List.mem_of_find?_eq_some hfind)
    have hq := List.find?_some hfind
    have hid : rs.id = q := beq_iff_eq.mp hq
    rw [Option.some_or, hkeep rs hrs contents current (hid ▸ hread) (hid ▸ hget) hsame]

/-- Unchanged default patterns keep their registered rule set, version and all, while it holds a
pattern, when no rule file a reload reads has their id. -/
theorem get?_reload_defaults (hids : defaultsId ∉ m.sourceIds) {current : RuleSet}
    (hget : m.registry.get? defaultsId = some current)
    (hsame : current.digest = contentDigest ("\n".intercalate m.defaultPatterns)) :
    (reloadAll.run m).2.registry.get? defaultsId =
      if current.patterns.isEmpty then none else some current := by
  obtain ⟨r, sources, -, -, -, -, hsources, -, hrun⟩ := loadRuleFiles_swaps m
  rw [defaultsRuleSet_of_unchanged hget hsame] at hrun
  have hcurrent : current.id = defaultsId := ((Registry.get?_eq_some_iff _).mp hget).2
  -- no rule file read has the id of the defaults
  have hnone : sources.reverse.find? (·.id == defaultsId) = none := by
    refine List.find?_eq_none.mpr fun rs hrs hid => hids ?_
    rw [← hsources]
    exact List.mem_map.mpr ⟨rs, List.mem_reverse.mp hrs, beq_iff_eq.mp hid⟩
  rw [show reloadAll = loadRuleFiles from rfl, hrun, registry_swapIn, Registry.get?_replaceAll,
    List.reverse_append, List.find?_append, hnone, Option.none_or]
  cases current.patterns.isEmpty
  · simp [hcurrent]
  · rfl

/-- A reload drops exactly the cached verdicts listed under the rule sets it replaced or dropped. -/
theorem mem_reload_cache_iff (h : m.cache.Covers) (e : CacheEntry) :
    e ∈ (reloadAll.run m).2.cache.entries ↔ e ∈ m.cache.entries ∧
      ∀ old ∈ m.registry.ruleSets,
        ((reloadAll.run m).2.registry.get? old.id).map RuleSet.version ≠ some old.version →
          e.key ∉ VerdictCache.dependents m.cache.deps old.id := by
  obtain ⟨r, sources, -, hreg, hcache, -, -, -, hrun⟩ := loadRuleFiles_swaps m
  rw [show reloadAll = loadRuleFiles from rfl, hrun]
  rw [← hcache] at h
  rw [mem_cache_swapIn h, hcache, hreg]

/-- Where the index is exact, a reload keeps every cached verdict whose versions mention only
rule sets it keeps. -/
theorem mem_reload_cache_of_kept (hcov : m.cache.Covers) (hex : m.cache.Exact) {e : CacheEntry}
    (he : e ∈ m.cache.entries)
    (hkept : ∀ id ∈ e.versions.map (·.1), ∀ old, m.registry.get? id = some old →
      ((reloadAll.run m).2.registry.get? id).map RuleSet.version = some old.version) :
    e ∈ (reloadAll.run m).2.cache.entries := by
  refine (mem_reload_cache_iff hcov e).mpr ⟨he, fun old hold hne hlisted => hne ?_⟩
  -- the index lists the key only under ids its entry mentions
  obtain ⟨e', he', hk, hid⟩ := hex.justified old.id e.key hlisted
  have hsame : e' = e := List.inj_on_of_nodup_map hex.keys_nodup he' he hk
  exact hkept old.id (hsame ▸ hid) old ((Registry.get?_eq_some_iff _).mpr ⟨hold, rfl⟩)

end Manager

open Manager

/-- Unchanged contents never cost a version. Told again with the digest of the registered rule
set, through `onRuleFileChanged` or through a notification while the source holds them, contents
leave the manager as it was. A reload publishes one generation; each rule file it reads with
unchanged contents keeps its registered rule set, version and all, and unchanged default patterns
keep theirs when no rule file read has their id. The reload drops exactly the cached verdicts
listed under rule sets it replaced or dropped, and on a cache that resolutions drive it keeps
every verdict whose versions mention only rule sets it kept. -/
theorem unchanged_contents_keep_rule_sets (m : Manager) :
    (∀ path contents current, m.registry.get? (m.absolute path).toString = some current →
      current.digest = contentDigest contents →
        (onRuleFileChanged path contents).run m = (current, m)) ∧
    (m.WellRooted → ∀ path contents current,
      m.source.present m.disk (m.absolute path).toString = true →
      m.source.read m.disk (m.absolute path).toString = .ok contents →
      m.registry.get? (m.absolute path).toString = some current →
      current.digest = contentDigest contents → ((notifyFileChanged path).run m).2 = m) ∧
    (reloadAll.run m).2.registry.generation = m.registry.generation + 1 ∧
    (∀ q ∈ m.sourceIds, ∀ contents current, m.source.read m.disk q = .ok contents →
      m.registry.get? q = some current → current.digest = contentDigest contents →
        (reloadAll.run m).2.registry.get? q = some current) ∧
    (defaultsId ∉ m.sourceIds → ∀ current, m.registry.get? defaultsId = some current →
      current.digest = contentDigest ("\n".intercalate m.defaultPatterns) →
        (reloadAll.run m).2.registry.get? defaultsId =
          if current.patterns.isEmpty then none else some current) ∧
    (∀ ic U r, SessionReachable ic U r m.cache →
      (∀ e, e ∈ (reloadAll.run m).2.cache.entries ↔ e ∈ m.cache.entries ∧
        ∀ old ∈ m.registry.ruleSets,
          ((reloadAll.run m).2.registry.get? old.id).map RuleSet.version ≠ some old.version →
            e.key ∉ VerdictCache.dependents m.cache.deps old.id) ∧
      ∀ e ∈ m.cache.entries, (∀ id ∈ e.versions.map (·.1), ∀ old, m.registry.get? id = some old →
        ((reloadAll.run m).2.registry.get? id).map RuleSet.version = some old.version) →
          e ∈ (reloadAll.run m).2.cache.entries) := by
  refine ⟨fun _ _ _ hget hsame => onRuleFileChanged_of_unchanged hget hsame, ?_,
    generation_reload m, ?_, fun hids _ hget hsame => get?_reload_defaults hids hget hsame, ?_⟩
  · intro h _ _ _ hpresent hread hget hsame
    exact notifyFileChanged_of_unchanged h hpresent hread hget hsame
  · intro _ hq _ _ hread hget hsame
    exact get?_reload_of_unchanged hq hread hget hsame
  intro ic U r hreach
  -- resolutions keep the index covering and exact
  obtain ⟨hcov, hex⟩ := hreach.index_exact
  exact ⟨mem_reload_cache_iff hcov, fun _ he hkept => mem_reload_cache_of_kept hcov hex he hkept⟩

/-- A workspace `/repo` with the default patterns and a top rule file `*.log` registered, and the
verdict of `/repo/a.log` cached by a resolution. Telling the rule file again, by its contents or by
a notification, changes nothing; a reload keeps both rule sets and the cached verdict. -/
theorem unchanged_contents_keep_rule_sets_repo :
    let root : PosixPath := ⟨"/", ["repo"]⟩
    let source : RuleFileSource := ⟨[".gitignore"], .memory [("/repo/.gitignore", "*.log\n")] []⟩
    let top := RuleSet.ofText 1 "/repo/.gitignore" root "*.log\n" Origin.found 10000
    let defaults := RuleSet.ofText 0 defaultsId root
      ("\n".intercalate Config.standard.defaultPatternList) Origin.defaults 10000
    let logPattern : Pattern := ⟨"*.log", [.glob "*.log" [.star, .lit ".log"]], false, false, false,
      some "/repo/.gitignore", 1⟩
    let session := (Registry.empty.register
      ⟨"/repo/.gitignore", root, [logPattern], 1, Origin.found, [], ""⟩).2
    let m : Manager := { create root Config.standard source FileTree.empty false 2 with
      registry := ((Registry.empty.register defaults).2.register top).2
      cache := ((({ registry := session, ignoreCase := false } : Resolver).resolve "/repo/a.log" false
        true).run.run (VerdictCache.empty 10)).2 }
    m.WellRooted ∧ m.sourceIds = ["/repo/.gitignore"] ∧
      m.registry.get? "/repo/.gitignore" = some top ∧ m.registry.get? defaultsId = some defaults ∧
      SessionReachable false (fun _ => True) session m.cache ∧
      (onRuleFileChanged "/repo/.gitignore" "*.log\n").run m = (top, m) ∧
      ((notifyFileChanged "/repo/.gitignore").run m).2 = m ∧
      (reloadAll.run m).2.registry.generation = m.registry.generation + 1 ∧
      (reloadAll.run m).2.registry.get? "/repo/.gitignore" = some top ∧
      (reloadAll.run m).2.registry.get? defaultsId =
        (if defaults.patterns.isEmpty then none else some defaults) ∧
      ∃ e ∈ m.cache.entries, e.key = ("/repo/a.log", false) ∧
        e ∈ (reloadAll.run m).2.cache.entries := by
  intro root source top defaults logPattern session m
  have hcanonical : PosixPath.Canonical ⟨"/", ["repo"]⟩ :=
    ⟨Or.inr (Or.inl rfl), by simp, by simp, by simp⟩
  have hroot : m.WellRooted := ⟨hcanonical, rfl⟩
  have hid : (m.absolute "/repo/.gitignore").toString = "/repo/.gitignore" := by cbv
  have hids : m.sourceIds = ["/repo/.gitignore"] := by cbv
  have hpresent : m.source.present m.disk "/repo/.gitignore" = true := by cbv
  have hread : m.source.read m.disk "/repo/.gitignore" = .ok "*.log\n" := by cbv
  have htop : m.registry.get? "/repo/.gitignore" = some top := by
    show ((Registry.empty.register defaults).2.register top).2.get? "/repo/.gitignore" = some top
    rw [Registry.get?_register, RuleSet.id_ofText, if_pos rfl]
  have hdefaults : m.registry.get? defaultsId = some defaults := by
    show ((Registry.empty.register defaults).2.register top).2.get? defaultsId = some defaults
    rw [Registry.get?_register, RuleSet.id_ofText, if_neg (by decide), Registry.get?_register,
      RuleSet.id_ofText, if_pos rfl]
  have hreach : SessionReachable false (fun _ => True) session m.cache :=
    .resolve "/repo/a.log" false true
      (.register ⟨"/repo/.gitignore", root, [logPattern], 1, Origin.found, [], ""⟩ trivial
        (.start 10))
  have hentries : m.cache.entries =
      [⟨("/repo/a.log", false), ⟨true, some logPattern⟩, [("/repo/.gitignore", 1)]⟩] := by
    cbv
  obtain ⟨hchanged, hnotify, hgeneration, hkept, hdefaultsKept, hcache⟩ :=
    unchanged_contents_keep_rule_sets m
  have hsame : top.digest = contentDigest "*.log\n" := RuleSet.digest_ofText _ _ _ _ _ _
  have hsameDefaults : defaults.digest = contentDigest ("\n".intercalate m.defaultPatterns) := by
    rw [RuleSet.digest_ofText]
    rfl
  have htopKept : (reloadAll.run m).2.registry.get? "/repo/.gitignore" = some top :=
    hkept _ (by rw [hids]; exact List.mem_singleton_self _) _ _ hread htop hsame
  have hc := hchanged _ _ _ (by rw [hid]; exact htop) hsame
  have hn := hnotify hroot _ _ _ (by rw [hid]; exact hpresent) (by rw [hid]; exact hread)
      (by rw [hid]; exact htop) hsame
  have hd := hdefaultsKept (by rw [hids]; decide) _ hdefaults hsameDefaults
  refine ⟨hroot, hids, htop, hdefaults, hreach, hc, hn, hgeneration, htopKept, hd, ?_⟩
  -- the cached verdict depends only on the top rule file, which the reload keeps
  have he : (⟨("/repo/a.log", false), ⟨true, some logPattern⟩, [("/repo/.gitignore", 1)]⟩ :
      CacheEntry) ∈ m.cache.entries := by
    rw [hentries]
    exact List.mem_singleton_self _
  refine ⟨_, he, rfl, (hcache _ _ _ hreach).2 _ he ?_⟩
  intro id hmem old hold
  have hq : id = "/repo/.gitignore" := List.mem_singleton.mp hmem
  subst hq
  rw [htop] at hold
  cases hold
  rw [htopKept]
  rfl

end IgnoreRules
