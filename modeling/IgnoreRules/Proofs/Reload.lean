import IgnoreRules.Proofs.Notify
import IgnoreRules.Proofs.MemorySource
import IgnoreRules.Proofs.Caching

/-!
# What a reload registers

A reload (manager.py:438–491) reads the default patterns and every rule file the source has (the
outer rule files that exist, then those it discovers, each normalised into an id) and swaps their
rule sets in at once; a file whose contents are unchanged keeps its rule set. Here that is said per
id, versions forgotten: `Manager.reloaded` is what a reload registers under an id, and
`entry_loadRuleFiles` proves that it does, from one lemma per step of the load (`readRuleSet_reads`,
`mapM_reads`, `defaultsRuleSet_reads`).

Where the source keeps its rule files in memory under the ids they name
(`Manager.CanonicalSource`), the ids a reload reads are those of the rule files the source has
(`Manager.CanonicalSource.mem_sourceIds`).

Versions never reach a verdict: registries with the same rule sets, versions aside, judge every
path alike (`Registry.verdictOf_applicable_eq`).
-/

namespace IgnoreRules

theorem RuleSet.id_ofText (v : Nat) (id : String) (baseDir : PosixPath) (contents : String)
    (origin : Origin) (maxPatterns : Int) :
    (RuleSet.ofText v id baseDir contents origin maxPatterns).id = id := rfl

theorem Pattern.ofText_empty (sourceFile : Option String) :
    (Pattern.ofText "" sourceFile).1 = [] := rfl

theorem RuleSet.patterns_ofText_of_nil {v : Nat} {id : String} {baseDir : PosixPath}
    {contents : String} {origin : Origin} {maxPatterns : Int}
    (h : (Pattern.ofText contents (some id)).1 = []) :
    (RuleSet.ofText v id baseDir contents origin maxPatterns).patterns = [] := by
  unfold RuleSet.ofText
  simp [h, takeUpTo]

namespace Manager

variable {m m' : Manager}

theorem SameSetup.fromSource (h : SameSetup m m') : m'.fromSource = m.fromSource := by
  funext id before
  simp only [Manager.fromSource, reread, built, h.source, h.disk, h.baseDirFor, h.originFor,
    h.config]

theorem fromSource_of_read_ok {id contents : String} (h : m.source.read m.disk id = .ok contents)
    (before : Option RuleSet) : m.fromSource id before = m.reread id contents before := by
  rw [fromSource, h]

/-! ## What a reload registers -/

/-- The rule set of the default patterns built afresh, its version forgotten. -/
def builtDefaults (m : Manager) : RuleSet :=
  RuleSet.ofText 0 defaultsId m.root ("\n".intercalate m.defaultPatterns) Origin.defaults 10000

/-- What a reload registers for the default patterns: their rule set, when it holds a pattern. -/
def defaultsEntry (m : Manager) : Option RuleSet :=
  if m.builtDefaults.patterns.isEmpty then none else some m.builtDefaults

/-- The ids of the rule files a reload reads: the outer rule files the source has, then the rule
files it finds. -/
def sourceIds (m : Manager) : List String :=
  m.outerFiles.filter (m.source.present m.disk) ++
    (m.source.discover m.disk none).map fun p => (PosixPath.normalize p).toString

/-- What a reload registers under an id, versions forgotten. -/
def reloaded (m : Manager) (q : String) : Option RuleSet :=
  if q = defaultsId then m.defaultsEntry
  else if q ∈ m.sourceIds then some (m.fromSource q (m.registry.entry q)) else none

theorem digest_builtDefaults (m : Manager) :
    m.builtDefaults.digest = contentDigest ("\n".intercalate m.defaultPatterns) := rfl

theorem SameSetup.builtDefaults (h : SameSetup m m') : m'.builtDefaults = m.builtDefaults := by
  simp only [Manager.builtDefaults, defaultPatterns, h.root, h.config]

theorem SameSetup.sourceIds (h : SameSetup m m') : m'.sourceIds = m.sourceIds := by
  simp only [Manager.sourceIds, h.outerFiles, h.source, h.disk]

/-- `rs` is what reading the rule file `id` on `m` gives, and `m'` the manager after: the rule
set the source has for the file (version forgotten), with `m`'s registry, cache and setup
kept. -/
structure Reads (m m' : Manager) (id : String) (rs : RuleSet) : Prop where
  setup : SameSetup m m'
  registry : m'.registry = m.registry
  cache : m'.cache = m.cache
  id_eq : rs.id = id
  eraseVersion_eq : rs.eraseVersion = m.fromSource id (m.registry.entry id)

theorem run_parseRuleFile (m : Manager) (id contents : String) :
    (parseRuleFile id contents).run m =
      (RuleSet.ofText m.nextVersion id (m.baseDirFor id) contents (m.originFor id)
        m.config.maxPatternsPerFile, { m with nextVersion := m.nextVersion + 1 }) := rfl

theorem run_unreadableRuleSet (m : Manager) (id reason : String) :
    (unreadableRuleSet id reason).run m =
      (RuleSet.empty m.nextVersion id (m.baseDirFor id) [Diagnostic.unreadable id reason]
        (m.originFor id), { m with nextVersion := m.nextVersion + 1 }) := rfl

/-- A rule set built afresh leaves all but the next version as it was. -/
theorem reads_fresh (m : Manager) (v : Nat) {id : String} {rs : RuleSet} (hid : rs.id = id)
    (h : rs.eraseVersion = m.fromSource id (m.registry.entry id)) :
    Reads m { m with nextVersion := v } id rs :=
  ⟨⟨rfl, rfl, rfl, rfl, rfl, rfl⟩, rfl, rfl, hid, h⟩

theorem readRuleSet_reads (m : Manager) (id : String) :
    Reads m ((readRuleSet id).run m).2 id ((readRuleSet id).run m).1 := by
  simp only [readRuleSet, StateT.run_bind, StateT.run_get, pure_bind]
  cases hread : m.source.read m.disk id with
  | error reason =>
    rw [run_unreadableRuleSet]
    exact reads_fresh m _ rfl (by simp [fromSource, hread])
  | ok contents =>
    cases hget : m.registry.get? id with
    | none =>
      rw [run_parseRuleFile]
      exact reads_fresh m _ rfl (by simp [fromSource, hread, Registry.entry, hget, reread, built])
    | some current =>
      have hentry : m.registry.entry id = some current.eraseVersion := by
        simp [Registry.entry, hget]
      have hid : current.id = id := ((Registry.get?_eq_some_iff _).mp hget).2
      -- unchanged contents keep the registered rule set, version and all
      dsimp only
      by_cases hsame : (current.digest == contentDigest contents) = true
      · rw [if_pos hsame]
        refine ⟨.refl m, rfl, rfl, hid, ?_⟩
        rw [hentry, fromSource_of_read_ok hread, reread, RuleSet.digest_eraseVersion, if_pos hsame]
        rfl
      · rw [if_neg hsame, run_parseRuleFile]
        refine reads_fresh m _ rfl ?_
        rw [hentry, fromSource_of_read_ok hread, reread, RuleSet.digest_eraseVersion, if_neg hsame]
        simp [built]

theorem run_mapM_cons {α β : Type} (g : α → StateM Manager β) (a : α) (l : List α) (m : Manager) :
    ((a :: l).mapM g).run m =
      (((g a).run m).1 :: ((l.mapM g).run ((g a).run m).2).1,
        ((l.mapM g).run ((g a).run m).2).2) := by
  simp only [List.mapM_cons, StateT.run_bind, StateT.run_pure]
  rfl

/-- Reading rule files one after another: each result is what the source has for its file, in
the order of the files, and the registry, cache and setup stay. -/
theorem mapM_reads {α : Type} (g : α → StateM Manager RuleSet) (f : α → String)
    (hg : ∀ a m, Reads m ((g a).run m).2 (f a) ((g a).run m).1) (l : List α) (m : Manager) :
    SameSetup m ((l.mapM g).run m).2 ∧ ((l.mapM g).run m).2.registry = m.registry ∧
      ((l.mapM g).run m).2.cache = m.cache ∧ ((l.mapM g).run m).1.map (·.id) = l.map f ∧
      ∀ rs ∈ ((l.mapM g).run m).1, rs.eraseVersion = m.fromSource rs.id (m.registry.entry rs.id) := by
  induction l generalizing m with
  | nil => exact ⟨.refl m, rfl, rfl, rfl, fun _ h => absurd h List.not_mem_nil⟩
  | cons a l ih =>
    have hread := hg a m
    obtain ⟨hsetup, hreg, hcache, hids, hall⟩ := ih ((g a).run m).2
    rw [run_mapM_cons]
    refine ⟨hread.setup.trans hsetup, hreg.trans hread.registry, hcache.trans hread.cache, ?_, ?_⟩
    · rw [List.map_cons, List.map_cons, hids, hread.id_eq]
    · intro rs hrs
      rcases List.mem_cons.mp hrs with rfl | hrs
      · rw [hread.eraseVersion_eq, hread.id_eq]
      · rw [hall rs hrs, hread.setup.fromSource, hread.registry]

theorem run_defaultsRuleSet_build (m : Manager) (text : String) :
    (defaultsRuleSet.build text).run m =
      (RuleSet.ofText m.nextVersion defaultsId m.root text Origin.defaults 10000,
        { m with nextVersion := m.nextVersion + 1 }) := rfl

/-- The default patterns, registered as a reload registers them or not at all, are read as
their rule set built afresh (version forgotten), with the registry and setup kept. -/
theorem defaultsRuleSet_reads (m : Manager)
    (h : m.registry.entry defaultsId = none ∨ m.registry.entry defaultsId = some m.builtDefaults) :
    SameSetup m (defaultsRuleSet.run m).2 ∧ (defaultsRuleSet.run m).2.registry = m.registry ∧
      (defaultsRuleSet.run m).2.cache = m.cache ∧ (defaultsRuleSet.run m).1.id = defaultsId ∧
      (defaultsRuleSet.run m).1.eraseVersion = m.builtDefaults := by
  unfold defaultsRuleSet
  rw [StateT.run_bind, StateT.run_get, pure_bind]
  dsimp only
  cases hget : m.registry.get? defaultsId with
  | none =>
    dsimp only
    rw [run_defaultsRuleSet_build]
    exact ⟨⟨rfl, rfl, rfl, rfl, rfl, rfl⟩, rfl, rfl, RuleSet.id_ofText _ _ _ _ _ _,
      RuleSet.eraseVersion_ofText _ _ _ _ _ _⟩
  | some current =>
    have hentry : current.eraseVersion = m.builtDefaults := by
      rcases h with h | h <;> simp [Registry.entry, hget] at h
      exact h
    have hsame : (current.digest == contentDigest ("\n".intercalate m.defaultPatterns)) = true := by
      rw [← RuleSet.digest_eraseVersion, hentry, digest_builtDefaults]
      exact beq_self_eq_true _
    dsimp only
    rw [if_pos hsame]
    exact ⟨.refl m, rfl, rfl, ((Registry.get?_eq_some_iff _).mp hget).2, hentry⟩

/-- Invalidating rule sets one after another only drops entries. -/
theorem VerdictCache.mem_foldl_invalidate_entries {e : CacheEntry} :
    ∀ (l : List RuleSet) (c : VerdictCache),
      e ∈ (l.foldl (fun c old => (c.invalidate old.id).2) c).entries → e ∈ c.entries
  | [], _, he => he
  | _ :: l, _, he => VerdictCache.mem_invalidate_entries (mem_foldl_invalidate_entries l _ he)

theorem run_loadRuleFiles (m : Manager) :
    let d := defaultsRuleSet.run m
    let outer := ((d.2.outerFiles.filter (d.2.source.present d.2.disk)).mapM readRuleSet).run d.2
    let found := ((d.2.source.discover d.2.disk none).mapM fun p =>
      readRuleSet (PosixPath.normalize p).toString).run outer.2
    SameSetup found.2 (loadRuleFiles.run m).2 ∧
      (loadRuleFiles.run m).2.registry = (found.2.registry.replaceAll
        ((if d.1.patterns.isEmpty then [] else [d.1]) ++ outer.1 ++ found.1)).2 ∧
      ∀ e ∈ (loadRuleFiles.run m).2.cache.entries, e ∈ found.2.cache.entries :=
  ⟨⟨rfl, rfl, rfl, rfl, rfl, rfl⟩, rfl, fun _ he => VerdictCache.mem_foldl_invalidate_entries _ _ he⟩

/-- Among rule sets that agree, versions forgotten, whenever they have a given id, looking for the
id from the end finds their common form exactly when one of them has it. -/
theorem map_find?_reverse {L : List RuleSet} {q : String} {v : RuleSet}
    (h : ∀ rs ∈ L, rs.id = q → rs.eraseVersion = v) :
    (L.reverse.find? (·.id == q)).map RuleSet.eraseVersion =
      if q ∈ L.map (·.id) then some v else none := by
  cases hf : L.reverse.find? (·.id == q) with
  | some rs =>
    have hmem : rs ∈ L := List.mem_reverse.mp (List.mem_of_find?_eq_some hf)
    have hq := List.find?_some hf
    have hid : rs.id = q := beq_iff_eq.mp hq
    rw [if_pos (List.mem_map.mpr ⟨rs, hmem, hid⟩), Option.map_some, h rs hmem hid]
  | none =>
    have hnot : q ∉ L.map (·.id) := by
      intro hq
      obtain ⟨rs, hrs, hid⟩ := List.mem_map.mp hq
      have hfalse := List.find?_eq_none.mp hf rs (List.mem_reverse.mpr hrs)
      exact hfalse (beq_iff_eq.mpr hid)
    rw [if_neg hnot]
    rfl

/-- What a reload reads: the defaults built afresh, and for each rule file it reads, in order,
what the source has for it; it then registers these in place of all it had. -/
theorem loadRuleFiles_reads (m : Manager)
    (hdefaults : m.registry.entry defaultsId = none ∨
      m.registry.entry defaultsId = some m.builtDefaults) :
    SameSetup m (loadRuleFiles.run m).2 ∧
      (∀ e ∈ (loadRuleFiles.run m).2.cache.entries, e ∈ m.cache.entries) ∧
      ∃ (r : Registry) (d : RuleSet) (sources : List RuleSet),
        (loadRuleFiles.run m).2.registry =
          (r.replaceAll ((if d.patterns.isEmpty then [] else [d]) ++ sources)).2 ∧
        d.id = defaultsId ∧ d.eraseVersion = m.builtDefaults ∧
        sources.map (·.id) = m.sourceIds ∧
        ∀ rs ∈ sources, rs.eraseVersion = m.fromSource rs.id (m.registry.entry rs.id) := by
  obtain ⟨hfinal, hregistry, hentries⟩ := run_loadRuleFiles m
  obtain ⟨hd, hd_reg, hd_cache, hd_id, hd_erase⟩ := defaultsRuleSet_reads m hdefaults
  generalize defaultsRuleSet.run m = d at hfinal hregistry hentries hd hd_reg hd_cache hd_id hd_erase
  obtain ⟨ho, ho_reg, ho_cache, ho_ids, ho_all⟩ := mapM_reads readRuleSet (fun p => p)
    (fun a m => readRuleSet_reads m a) (d.2.outerFiles.filter (d.2.source.present d.2.disk)) d.2
  generalize ((d.2.outerFiles.filter (d.2.source.present d.2.disk)).mapM readRuleSet).run d.2 = o
    at hfinal hregistry hentries ho ho_reg ho_cache ho_ids ho_all
  obtain ⟨hf, hf_reg, hf_cache, hf_ids, hf_all⟩ := mapM_reads
    (fun p => readRuleSet (PosixPath.normalize p).toString) (fun p => (PosixPath.normalize p).toString)
    (fun a m => readRuleSet_reads m _) (d.2.source.discover d.2.disk none) o.2
  generalize ((d.2.source.discover d.2.disk none).mapM fun p =>
    readRuleSet (PosixPath.normalize p).toString).run o.2 = f
    at hfinal hregistry hentries hf hf_reg hf_cache hf_ids hf_all
  -- every read keeps the setup, the registry and the cache of `m`, so each result is judged
  -- against `m`
  have hsetup : SameSetup m o.2 := hd.trans ho
  refine ⟨(hsetup.trans hf).trans hfinal, fun e he => ?_, f.2.registry, d.1, o.1 ++ f.1, ?_, hd_id,
    hd_erase, ?_, ?_⟩
  · rw [← hd_cache, ← ho_cache, ← hf_cache]
    exact hentries e he
  · rw [hregistry, List.append_assoc]
  · rw [List.map_append, ho_ids, hf_ids, List.map_id', ← hd.sourceIds]
    rfl
  · intro rs hrs
    rcases List.mem_append.mp hrs with hrs | hrs
    · rw [ho_all rs hrs, hd.fromSource, hd_reg]
    · rw [hf_all rs hrs, hsetup.fromSource, ho_reg, hd_reg]

theorem mem_ids_defaults_append {b : Bool} {d : RuleSet} {sources : List RuleSet} {q : String} :
    q ∈ ((if b then [] else [d]) ++ sources).map (·.id) ↔
      (b = false ∧ q = d.id) ∨ q ∈ sources.map (·.id) := by
  cases b <;> simp [eq_comm]

/-- A reload registers, versions forgotten, what `reloaded` says: the defaults when they hold a
pattern, what the source has for each rule file it reads, and nothing else. -/
theorem entry_loadRuleFiles
    (hdefaults : m.registry.entry defaultsId = none ∨
      m.registry.entry defaultsId = some m.builtDefaults)
    (hids : defaultsId ∉ m.sourceIds) (q : String) :
    (loadRuleFiles.run m).2.registry.entry q = m.reloaded q := by
  obtain ⟨-, -, r, d, sources, hreg, hd_id, hd_erase, hsources, hall⟩ := loadRuleFiles_reads m hdefaults
  rw [Registry.entry, hreg, Registry.get?_replaceAll, reloaded]
  by_cases hq : q = defaultsId
  · -- only the defaults have their id: no rule file read is named so
    subst hq
    have hagree : ∀ rs ∈ (if d.patterns.isEmpty then [] else [d]) ++ sources,
        rs.id = defaultsId → rs.eraseVersion = m.builtDefaults := by
      intro rs hrs hid
      rcases List.mem_append.mp hrs with hd | hs
      · split at hd
        · exact absurd hd List.not_mem_nil
        · rw [List.mem_singleton.mp hd, hd_erase]
      · exact absurd (hsources ▸ List.mem_map.mpr ⟨rs, hs, hid⟩) hids
    have hpatterns : d.patterns = m.builtDefaults.patterns := by
      rw [← hd_erase]
      rfl
    rw [map_find?_reverse hagree, if_pos rfl, defaultsEntry, ← hpatterns]
    simp only [mem_ids_defaults_append, hd_id, hsources]
    cases hb : d.patterns.isEmpty <;> simp [hids]
  · have hagree : ∀ rs ∈ (if d.patterns.isEmpty then [] else [d]) ++ sources,
        rs.id = q → rs.eraseVersion = m.fromSource q (m.registry.entry q) := by
      intro rs hrs hid
      rcases List.mem_append.mp hrs with hd | hs
      · split at hd
        · exact absurd hd List.not_mem_nil
        · exact absurd (hid ▸ (List.mem_singleton.mp hd ▸ hd_id).symm) (Ne.symm hq)
      · rw [hall rs hs, hid]
    rw [map_find?_reverse hagree, if_neg hq]
    simp only [mem_ids_defaults_append, hd_id, hsources]
    simp [hq]

/-- A reload registers some rule set under each id it reads. -/
theorem isSome_entry_reload
    (hdefaults : m.registry.entry defaultsId = none ∨
      m.registry.entry defaultsId = some m.builtDefaults)
    (hd : defaultsId ∉ m.sourceIds) {q : String} (hq : q ∈ m.sourceIds) :
    ((reloadAll.run m).2.registry.entry q).isSome = true := by
  have hne : q ≠ defaultsId := fun h => hd (h ▸ hq)
  rw [show reloadAll = loadRuleFiles from rfl, entry_loadRuleFiles hdefaults hd, reloaded,
    if_neg hne, if_pos hq]
  rfl

/-! ## Managers whose source is written in ids -/

/-- An id never names the defaults: it starts with the root's slash. -/
theorem WellRooted.absolute_ne_defaultsId (h : m.WellRooted) (path : String) :
    (m.absolute path).toString ≠ defaultsId := by
  intro hd
  have hhead := (h.resolved path).head?_toString
  rw [hd] at hhead
  exact absurd hhead (by decide)

/-- The text of an id, normalised, is the id. -/
theorem WellRooted.normalize_id (h : m.WellRooted) {q : String} (hq : (m.absolute q).toString = q) :
    (PosixPath.normalize q).toString = q := by
  have hn := (h.resolved q).normalize_toString
  rw [hq] at hn
  rw [hn, hq]

/-- A manager whose rule files are kept in memory under the ids they name: its root is canonical
and absolute, and each path its source has and each outer rule file is written as its own id. -/
structure CanonicalSource (m : Manager) : Prop where
  wellRooted : m.WellRooted
  memory : ∃ files unreadable, m.source.store = .memory files unreadable
  present_id : ∀ q, m.source.present m.disk q = true → (m.absolute q).toString = q
  outer_id : ∀ o ∈ m.outerFiles, (m.absolute o).toString = o

theorem CanonicalSource.of_sameSetup (h : m.CanonicalSource) (hs : SameSetup m m') :
    m'.CanonicalSource where
  wellRooted := h.wellRooted.of_sameSetup hs
  memory := hs.source ▸ h.memory
  present_id := by
    rw [hs.source, hs.disk, hs.absolute]
    exact h.present_id
  outer_id := by
    rw [hs.outerFiles, hs.absolute]
    exact h.outer_id

/-- The ids a reload reads are the ids of the rule files the source has. -/
theorem CanonicalSource.mem_sourceIds (h : m.CanonicalSource) {q : String} :
    q ∈ m.sourceIds ↔
      (m.absolute q).toString = q ∧ m.isRuleFile q = true ∧ m.source.present m.disk q = true := by
  obtain ⟨files, unreadable, hmem⟩ := h.memory
  have hrule : ∀ {p : String}, (m.absolute p).toString = p →
      (m.isRuleFile p = true ↔ p ∈ m.outerFiles ∨ m.source.isRuleFile p = true) := by
    intro p hp
    simp only [isRuleFile, hp, Bool.or_eq_true, List.contains_iff_mem]
  constructor
  · intro hq
    rcases List.mem_append.mp hq with ho | hf
    · obtain ⟨ho, hp⟩ := List.mem_filter.mp ho
      have hid := h.outer_id q ho
      exact ⟨hid, (hrule hid).mpr (Or.inl ho), hp⟩
    · -- a found rule file is written as its id, so normalising it changes nothing
      obtain ⟨p, hp, rfl⟩ := List.mem_map.mp hf
      obtain ⟨hname, hpresent, -⟩ := (RuleFileSource.mem_discover_memory hmem none p).mp hp
      have hid := h.present_id p hpresent
      rw [h.wellRooted.normalize_id hid]
      exact ⟨hid, (hrule hid).mpr (Or.inr hname), hpresent⟩
  · rintro ⟨hid, hq, hpresent⟩
    rcases (hrule hid).mp hq with ho | hname
    · exact List.mem_append_left _ (List.mem_filter.mpr ⟨ho, hpresent⟩)
    · refine List.mem_append_right _ (List.mem_map.mpr ⟨q, ?_, h.wellRooted.normalize_id hid⟩)
      exact (RuleFileSource.mem_discover_memory hmem none q).mpr
        ⟨hname, hpresent, fun _ hnone => absurd hnone (by simp)⟩

theorem CanonicalSource.defaultsId_not_mem (h : m.CanonicalSource) : defaultsId ∉ m.sourceIds :=
  fun hd => h.wellRooted.absolute_ne_defaultsId defaultsId (h.mem_sourceIds.mp hd).1

/-- A reload registers nothing under an id other than the defaults' that names no rule file, or
that the source does not have. -/
theorem CanonicalSource.reloaded_eq_none (h : m.CanonicalSource) {q : String}
    (hqd : q ≠ defaultsId) (hq : m.isRuleFile q = false ∨ m.source.present m.disk q = false) :
    m.reloaded q = none := by
  have hmem : q ∉ m.sourceIds := by
    intro hmem
    obtain ⟨-, hrule, hpresent⟩ := h.mem_sourceIds.mp hmem
    rcases hq with hq | hq
    · exact Bool.false_ne_true (hq.symm.trans hrule)
    · exact Bool.false_ne_true (hq.symm.trans hpresent)
  rw [reloaded, if_neg hqd, if_neg hmem]

theorem originFor_ne_defaults (m : Manager) (id : String) : m.originFor id ≠ Origin.defaults := by
  unfold originFor
  split <;> decide

/-- A rule set made from the source for a rule file has a rule file's origin, when the one it may
keep has. -/
theorem origin_fromSource_ne {id : String} {before : Option RuleSet}
    (hb : ∀ rs, before = some rs → rs.origin ≠ Origin.defaults) :
    (m.fromSource id before).origin ≠ Origin.defaults := by
  unfold fromSource
  split
  · exact originFor_ne_defaults m id
  · unfold reread
    split
    · split
      · exact hb _ rfl
      · exact originFor_ne_defaults m id
    · exact originFor_ne_defaults m id

theorem defaultsEntry_cases (m : Manager) :
    m.defaultsEntry = none ∨ m.defaultsEntry = some m.builtDefaults := by
  unfold defaultsEntry
  split
  · exact Or.inl rfl
  · exact Or.inr rfl

end Manager

namespace Resolver

theorem sweep_map_eraseVersion (ic : Bool) (x : PosixPath) (isDirectory : Bool)
    (ruleSets : List RuleSet) :
    sweep ic x isDirectory (ruleSets.map RuleSet.eraseVersion) = sweep ic x isDirectory ruleSets := by
  rw [sweep, sweep, ← List.map_reverse]
  generalize ruleSets.reverse = l
  induction l with
  | nil => rfl
  | cons rs rest ih =>
    rw [List.map_cons, sweep.deepestFirst, sweep.deepestFirst, ih]
    rfl

theorem firstIgnored_map_eraseVersion (ic : Bool) (ruleSets : List RuleSet) :
    ∀ dirs : List PosixPath,
      firstIgnored ic (ruleSets.map RuleSet.eraseVersion) dirs = firstIgnored ic ruleSets dirs
  | [] => rfl
  | dir :: rest => by
    rw [firstIgnored, firstIgnored, List.takeWhile_map, sweep_map_eraseVersion,
      firstIgnored_map_eraseVersion ic ruleSets rest]
    rfl

/-- The walk reads no version. -/
theorem verdictOf_map_eraseVersion (ic : Bool) (path : PosixPath) (isDirectory : Bool) :
    ∀ ruleSets : List RuleSet,
      verdictOf ic path isDirectory (ruleSets.map RuleSet.eraseVersion) =
        verdictOf ic path isDirectory ruleSets
  | [] => rfl
  | top :: rest => by
    rw [List.map_cons, verdictOf, verdictOf, ← List.map_cons, firstIgnored_map_eraseVersion,
      sweep_map_eraseVersion]
    rfl

end Resolver

namespace Registry

variable {r r' : Registry} {p : PosixPath}

/-- The rule sets that judge a path, versions forgotten, are the registered ones based above it. -/
theorem mem_map_eraseVersion_applicable {x : RuleSet} :
    x ∈ (r.applicable p).map RuleSet.eraseVersion ↔
      r.entry x.id = some x ∧ p.isUnder x.baseDir = true := by
  rw [List.mem_map]
  constructor
  · rintro ⟨rs, hrs, rfl⟩
    obtain ⟨hmem, hunder⟩ := mem_applicable.mp hrs
    rw [entry, RuleSet.id_eraseVersion, (get?_eq_some_iff r).mpr ⟨hmem, rfl⟩]
    exact ⟨rfl, hunder⟩
  · rintro ⟨hentry, hunder⟩
    obtain ⟨rs, hget, rfl⟩ := Option.map_eq_some_iff.mp hentry
    exact ⟨rs, mem_applicable.mpr ⟨((get?_eq_some_iff r).mp hget).1, hunder⟩, rfl⟩

/-- Registries with the same rule sets, versions aside, give every path the same rule sets to
judge it, in the same order. -/
theorem map_eraseVersion_applicable_eq (h : ∀ q, r'.entry q = r.entry q) (p : PosixPath) :
    (r'.applicable p).map RuleSet.eraseVersion = (r.applicable p).map RuleSet.eraseVersion := by
  -- both lists are strictly ordered by `Precedes`, which reads no version, and have the same members
  have hsorted : ∀ r : Registry,
      ((r.applicable p).map RuleSet.eraseVersion).Pairwise RuleSet.Precedes := fun r =>
    List.pairwise_map.mpr (pairwise_applicable r.indexes.ids_nodup)
  refine List.Pairwise.eq_of_mem_iff (hsorted r') (hsorted r) fun x => ?_
  rw [mem_map_eraseVersion_applicable, mem_map_eraseVersion_applicable, h]

/-- Registries with the same rule sets, versions aside, give every path the same verdict. -/
theorem verdictOf_applicable_eq (h : ∀ q, r'.entry q = r.entry q) (ic : Bool) (isDirectory : Bool) :
    Resolver.verdictOf ic p isDirectory (r'.applicable p) =
      Resolver.verdictOf ic p isDirectory (r.applicable p) := by
  rw [← Resolver.verdictOf_map_eraseVersion ic p isDirectory (r'.applicable p),
    map_eraseVersion_applicable_eq h, Resolver.verdictOf_map_eraseVersion]

end Registry

end IgnoreRules
