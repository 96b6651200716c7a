import Mathlib
import IgnoreRules.Proofs.Reload

/-!
# Incremental maintenance agrees with a reload

A manager keeps its registry current one notification at a time (manager.py:228–321); a reload
rebuilds it from the source. The two agree on a manager in step with its source (`Manager.Synced`):
every id has registered what a reload would register (`Manager.SyncedAt`), the source is written in
ids, and no rule file's rule set has the defaults' origin. A notification brings the id it names in
step and leaves every other id as it was (`Manager.Orderly.notify`); a directory notification does
so for every id loaded or present below the directory (`Manager.Orderly.forM`); a reload brings
every id in step (`Manager.Orderly.reload`). A change of the source puts only the id of its path out
of step (`Manager.Synced.changed`), and telling the manager at that path or at a directory above it
brings that id back (`Manager.Synced.changeFile`, `Manager.Synced.changeBelow`). Notifications and
reloads only drop cached verdicts, so such a manager holds none and answers a query from its rule
sets alone, versions aside (`Manager.resolve_eq_of_entry_eq`).

## Main statements

- `Manager.Incremental`: the managers reached by told changes, notifications and reloads.
- `incremental_agrees_with_reload`: each of them has registered what a reload registers, and
  answers every query as after a reload.
-/

namespace IgnoreRules

/-- A cache that holds only entries of an empty cache is empty. -/
theorem VerdictCache.entries_eq_nil_of_subset {c c' : VerdictCache}
    (h : ∀ e ∈ c'.entries, e ∈ c.entries) (hc : c.entries = []) : c'.entries = [] :=
  List.subset_nil.mp fun e he => hc ▸ h e he

namespace Manager

variable {m m' : Manager}

/-! ## In step with the source -/

/-- Two managers that a reload treats alike at one id: the same root, configuration, outer rule
files and rule file names, the same answers of the source for the id, and the same rule set
registered under it. -/
structure AgreeAt (m m' : Manager) (q : String) : Prop where
  root : m'.root = m.root
  config : m'.config = m.config
  outerFiles : m'.outerFiles = m.outerFiles
  ruleFilenames : m'.source.ruleFilenames = m.source.ruleFilenames
  present : m'.source.present m'.disk q = m.source.present m.disk q
  read : m'.source.read m'.disk q = m.source.read m.disk q
  entry : m'.registry.entry q = m.registry.entry q

theorem SameSetup.agreeAt (hs : SameSetup m m') {q : String}
    (he : m'.registry.entry q = m.registry.entry q) : AgreeAt m m' q :=
  ⟨hs.root, hs.config, hs.outerFiles, by rw [hs.source], by rw [hs.source, hs.disk],
    by rw [hs.source, hs.disk], he⟩

theorem AgreeAt.isRuleFile {q : String} (ha : AgreeAt m m' q) : m'.isRuleFile q = m.isRuleFile q := by
  simp only [Manager.isRuleFile, Manager.absolute, RuleFileSource.isRuleFile, ha.root,
    ha.outerFiles, ha.ruleFilenames]

theorem AgreeAt.fromSource {q : String} (ha : AgreeAt m m' q) (before : Option RuleSet) :
    m'.fromSource q before = m.fromSource q before := by
  simp only [Manager.fromSource, reread, built, baseDirFor, originFor, ha.read, ha.root,
    ha.outerFiles, ha.config]

/-- What a reload registers at an id depends only on what the managers agree on there. -/
theorem AgreeAt.reloaded (h : m.CanonicalSource) (h' : m'.CanonicalSource) {q : String}
    (ha : AgreeAt m m' q) : m'.reloaded q = m.reloaded q := by
  have hmem : q ∈ m'.sourceIds ↔ q ∈ m.sourceIds := by
    rw [h.mem_sourceIds, h'.mem_sourceIds, ha.isRuleFile, ha.present, Manager.absolute, ha.root]
    rfl
  have hbuilt : m'.builtDefaults = m.builtDefaults := by
    rw [builtDefaults, builtDefaults, defaultPatterns, defaultPatterns, ha.root, ha.config]
  have hdefaults : m'.defaultsEntry = m.defaultsEntry := by
    rw [defaultsEntry, defaultsEntry, hbuilt]
  simp only [Manager.reloaded, hmem, hdefaults, ha.fromSource, ha.entry]

/-- The rule set registered for an id is the one a reload would register. -/
def SyncedAt (m : Manager) (q : String) : Prop := m.registry.entry q = m.reloaded q

theorem AgreeAt.syncedAt_iff (h : m.CanonicalSource) (h' : m'.CanonicalSource) {q : String}
    (ha : AgreeAt m m' q) : m'.SyncedAt q ↔ m.SyncedAt q := by
  rw [SyncedAt, SyncedAt, ha.entry, ha.reloaded h h']

/-- A manager fit for notifications: its source is written in ids, and no rule file's rule set
claims the defaults' origin (a directory notification passes over rule sets of that origin). -/
structure Orderly (m : Manager) : Prop where
  canonical : m.CanonicalSource
  origin_ne : ∀ q rs, m.registry.entry q = some rs → q ≠ defaultsId → rs.origin ≠ Origin.defaults

/-- A manager in step with its source: at every id it has registered what a reload would. -/
structure Synced (m : Manager) : Prop extends m.Orderly where
  syncedAt : ∀ q, m.SyncedAt q

/-- A notification keeps the manager orderly, keeps each id in step that was, and brings the id of
a rule file in step. -/
theorem Orderly.notify (ho : m.Orderly) (path : String) :
    SameSetup m ((notifyFileChanged path).run m).2 ∧ ((notifyFileChanged path).run m).2.Orderly ∧
      ∀ q, (m.SyncedAt q ∨ (q = (m.absolute path).toString ∧ m.isRuleFile q = true)) →
        ((notifyFileChanged path).run m).2.SyncedAt q := by
  have hc := ho.canonical
  have hu := notifyFileChanged_updates hc.wellRooted path
  generalize ((notifyFileChanged path).run m).2 = m' at hu ⊢
  have hc' := hc.of_sameSetup hu.setup
  have hid := hc.wellRooted.absolute_id path
  have hne := hc.wellRooted.absolute_ne_defaultsId path
  generalize (m.absolute path).toString = id at hu hid hne
  -- at its own id the notification leaves what a reload would register, or what was there
  have hself : m.isRuleFile id = true → m'.SyncedAt id := by
    intro hrule
    have hreloaded : m'.reloaded id = if m.source.present m.disk id
        then some (m.fromSource id (m'.registry.entry id)) else none := by
      have hmem : id ∈ m'.sourceIds ↔ m.source.present m.disk id = true := by
        rw [hc'.mem_sourceIds, hu.setup.absolute, hu.setup.isRuleFile, hu.setup.source,
          hu.setup.disk, hid]
        simp [hrule]
      rw [reloaded, if_neg hne, hu.setup.fromSource]
      simp only [hmem]
    rw [SyncedAt, hreloaded, hu.entry_self, settled, if_pos hrule]
    split
    · rw [fromSource_fromSource]
    · rfl
  refine ⟨hu.setup, ⟨hc', fun q rs hq hqd => ?_⟩, fun q hq => ?_⟩
  · by_cases hqid : q = id
    · subst hqid
      rw [hu.entry_self, settled] at hq
      split at hq
      · split at hq
        · rw [← Option.some.inj hq]
          exact origin_fromSource_ne fun rs hrs => ho.origin_ne q rs hrs hqd
        · exact absurd hq (by simp)
      · exact ho.origin_ne q rs hq hqd
    · exact ho.origin_ne q rs (hu.entry_other q hqid ▸ hq) hqd
  · rcases hq with hq | ⟨rfl, hrule⟩
    · by_cases hqid : q = id
      · subst hqid
        by_cases hrule : m.isRuleFile q = true
        · exact hself hrule
        · -- a path that is no rule file is passed over
          have hsame : m'.registry.entry q = m.registry.entry q := by
            rw [hu.entry_self, settled, if_neg hrule]
          exact ((hu.setup.agreeAt hsame).syncedAt_iff hc hc').mpr hq
      · exact ((hu.setup.agreeAt (hu.entry_other q hqid)).syncedAt_iff hc hc').mpr hq
    · exact hself hrule

/-- Notifying paths one by one keeps the manager orderly and each id in step that was, and brings
the id of each notified rule file in step. -/
theorem Orderly.forM : ∀ (paths : List String) {m : Manager}, m.Orderly →
    SameSetup m ((paths.forM notifyFileChanged).run m).2 ∧
      ((paths.forM notifyFileChanged).run m).2.Orderly ∧
      ∀ q, (m.SyncedAt q ∨ ((∃ p ∈ paths, (m.absolute p).toString = q) ∧ m.isRuleFile q = true)) →
        ((paths.forM notifyFileChanged).run m).2.SyncedAt q
  | [], m, ho => ⟨.refl m, ho, fun q hq => hq.resolve_right (by simp)⟩
  | p :: paths, m, ho => by
    obtain ⟨hs₁, ho₁, hsync₁⟩ := ho.notify p
    obtain ⟨hs₂, ho₂, hsync₂⟩ := Orderly.forM paths ho₁
    refine ⟨hs₁.trans hs₂, ho₂, fun q hq => hsync₂ q ?_⟩
    rcases hq with hq | ⟨⟨x, hx, rfl⟩, hrule⟩
    · exact Or.inl (hsync₁ _ (Or.inl hq))
    · rcases List.mem_cons.mp hx with rfl | hx
      · exact Or.inl (hsync₁ _ (Or.inr ⟨rfl, hrule⟩))
      · exact Or.inr ⟨⟨x, hx, by rw [hs₁.absolute]⟩, by rw [hs₁.isRuleFile]; exact hrule⟩

/-- A reload of an orderly manager whose defaults are registered as a reload registers them, or
not at all, registers what `reloaded` says and leaves the manager in step with its source. -/
theorem Orderly.reload (ho : m.Orderly)
    (hdefaults : m.registry.entry defaultsId = none ∨
      m.registry.entry defaultsId = some m.builtDefaults) :
    (∀ q, (reloadAll.run m).2.registry.entry q = m.reloaded q) ∧ (reloadAll.run m).2.Synced := by
  have hs : SameSetup m (reloadAll.run m).2 := (loadRuleFiles_reads m hdefaults).1
  have hentry := entry_loadRuleFiles hdefaults ho.canonical.defaultsId_not_mem
  change ∀ q, (reloadAll.run m).2.registry.entry q = m.reloaded q at hentry
  generalize (reloadAll.run m).2 = m' at hs hentry ⊢
  refine ⟨hentry, ⟨ho.canonical.of_sameSetup hs, fun q rs hq hqd => ?_⟩, fun q => ?_⟩
  · rw [hentry, reloaded, if_neg hqd] at hq
    split at hq
    · rw [← Option.some.inj hq]
      exact origin_fromSource_ne fun rs hrs => ho.origin_ne q rs hrs hqd
    · exact absurd hq (by simp)
  · -- reading again what a reload registered keeps it
    rw [SyncedAt, hentry, reloaded, reloaded, hs.sourceIds, hs.fromSource, defaultsEntry,
      defaultsEntry, hs.builtDefaults, hentry]
    by_cases hqd : q = defaultsId
    · rw [if_pos hqd, if_pos hqd]
    · rw [if_neg hqd, if_neg hqd, reloaded, if_neg hqd]
      split
      · rw [fromSource_fromSource]
      · rfl

theorem Synced.entry_eq (hs : m.Synced) (q : String) : m.registry.entry q = m.reloaded q :=
  hs.syncedAt q

theorem Synced.defaults (hs : m.Synced) :
    m.registry.entry defaultsId = none ∨ m.registry.entry defaultsId = some m.builtDefaults := by
  rw [hs.entry_eq defaultsId, reloaded, if_pos rfl]
  exact defaultsEntry_cases m

/-- A manager in step with its source is left as it is by a reload, versions aside. -/
theorem Synced.entry_reload (hs : m.Synced) (q : String) :
    (reloadAll.run m).2.registry.entry q = m.registry.entry q := by
  rw [(hs.toOrderly.reload hs.defaults).1 q, hs.entry_eq q]

/-! ## Changes of the source -/

/-- The manager with its source changed, not yet told. -/
def changed (m : Manager) (c : SourceChange) : Manager := { m with source := c.apply m.source }

@[simp] theorem root_changed (m : Manager) (c : SourceChange) : (m.changed c).root = m.root := rfl

@[simp] theorem source_changed (m : Manager) (c : SourceChange) :
    (m.changed c).source = c.apply m.source := rfl

@[simp] theorem disk_changed (m : Manager) (c : SourceChange) : (m.changed c).disk = m.disk := rfl

@[simp] theorem absolute_changed (m : Manager) (c : SourceChange) :
    (m.changed c).absolute = m.absolute := rfl

theorem SameSetup.changed (hs : SameSetup m m') (c : SourceChange) :
    SameSetup (m.changed c) (m'.changed c) :=
  ⟨hs.root, hs.config, by simp only [source_changed, hs.source], hs.disk, hs.outerFiles,
    hs.listening⟩

theorem isRuleFile_changed (m : Manager) (c : SourceChange) :
    (m.changed c).isRuleFile = m.isRuleFile := by
  funext p
  simp only [Manager.isRuleFile, Manager.absolute, changed, SourceChange.isRuleFile_apply]

/-- While the manager listens, a change of its source is the change told at its path. -/
theorem changeSource_apply (hl : m.listening = true) (c : SourceChange) :
    ((changeSource c.apply c.path).run m).2 = ((notifyFileChanged c.path).run (m.changed c)).2 := by
  simp [changeSource, changed, hl]

/-- While the manager does not listen, a change of its source is not told. -/
theorem changeSource_of_not_listening (hl : m.listening = false) (c : SourceChange) :
    ((changeSource c.apply c.path).run m).2 = m.changed c := by
  simp [changeSource, changed, hl]
  rfl

/-- A change at a path written as its id keeps the manager orderly and every other id in step,
and its own id too when it names no rule file. -/
theorem Synced.changed (hs : m.Synced) (c : SourceChange)
    (hc : (m.absolute c.path).toString = c.path) :
    (m.changed c).Orderly ∧
      ∀ q, (q ≠ c.path ∨ m.isRuleFile q = false) → (m.changed c).SyncedAt q := by
  have hcan := hs.canonical
  obtain ⟨files, unreadable, hmem⟩ := hcan.memory
  have hcan' : (m.changed c).CanonicalSource := by
    refine ⟨⟨hcan.wellRooted.canonical, hcan.wellRooted.isAbsolute⟩,
      SourceChange.memory_apply c hmem |>.imp fun _ h => h.imp fun _ h => h.1, fun q hq => ?_,
      hcan.outer_id⟩
    by_cases hqc : q = c.path
    · rw [hqc]
      exact hc
    · have hsame : (c.apply m.source).present m.disk q = m.source.present m.disk q :=
        (SourceChange.present_read_apply_of_ne c hmem hqc).1
      exact hcan.present_id q (hsame ▸ hq)
  -- away from the path the source answers as before
  have hagree : ∀ q, q ≠ c.path → AgreeAt m (m.changed c) q := fun q hq =>
    ⟨rfl, rfl, rfl, SourceChange.ruleFilenames_apply c m.source,
      (SourceChange.present_read_apply_of_ne c hmem hq).1,
      (SourceChange.present_read_apply_of_ne c hmem hq).2, rfl⟩
  refine ⟨⟨hcan', hs.origin_ne⟩, fun q hq => ?_⟩
  by_cases hqc : q = c.path
  · -- a path that names no rule file is registered under no reload, before or after
    subst hqc
    have hrule : m.isRuleFile c.path = false := hq.resolve_left (not_not.mpr rfl)
    have hne := hcan.wellRooted.absolute_ne_defaultsId c.path
    rw [hc] at hne
    rw [SyncedAt, hcan'.reloaded_eq_none hne (Or.inl (by rw [isRuleFile_changed]; exact hrule))]
    exact (hs.entry_eq c.path).trans (hcan.reloaded_eq_none hne (Or.inl hrule))
  · exact ((hagree q hqc).syncedAt_iff hcan hcan').mpr (hs.syncedAt q)

/-- A change told at its own path leaves the manager in step with its source. -/
theorem Synced.changeFile (hs : m.Synced) (c : SourceChange)
    (hc : (m.absolute c.path).toString = c.path) :
    ((notifyFileChanged c.path).run (m.changed c)).2.Synced := by
  obtain ⟨ho₁, hsync₁⟩ := hs.changed c hc
  obtain ⟨-, ho₂, hsync₂⟩ := ho₁.notify c.path
  refine ⟨ho₂, fun q => hsync₂ q ?_⟩
  by_cases hq : q = c.path
  · subst hq
    cases hrule : m.isRuleFile c.path with
    | false => exact Or.inl (hsync₁ _ (Or.inr hrule))
    | true => exact Or.inr ⟨hc.symm, by rw [isRuleFile_changed]; exact hrule⟩
  · exact Or.inl (hsync₁ q (Or.inl hq))

/-- After a change below a directory of the workspace, the rule file changed is either still
in step or among the ids a notification of the directory checks: it was registered, so it is
loaded below the directory, or the source now has it under a rule file name below the directory.
An outer rule file that the change creates must have such a name. -/
theorem Synced.changed_reached (hs : m.Synced) (c : SourceChange)
    (hc : (m.absolute c.path).toString = c.path) (dir : String)
    (hdir : (m.absolute dir == m.root || (m.absolute dir).isUnder m.root) = true)
    (hbelow : (m.absolute c.path).isUnder (m.absolute dir) = true)
    (hnew : m.source.present m.disk c.path = false →
      (c.apply m.source).present m.disk c.path = true → c.path ∈ m.outerFiles →
        m.source.isRuleFile c.path = true)
    (hrule : m.isRuleFile c.path = true) :
    (m.changed c).SyncedAt c.path ∨ c.path ∈ (m.changed c).dirIds dir := by
  have hcan := hs.canonical
  obtain ⟨files, unreadable, hmem⟩ := hcan.memory
  have hne := hcan.wellRooted.absolute_ne_defaultsId c.path
  rw [hc] at hne
  have hpath : PosixPath.ofString c.path = m.absolute c.path := by
    conv_lhs => rw [← hc]
    exact PosixPath.ofString_toString (hcan.wellRooted.resolved c.path).canonical
  have hparents : (PosixPath.ofString c.path).parents.contains (m.absolute dir) = true := by
    rw [hpath, List.contains_iff_mem, PosixPath.mem_parents]
    exact hbelow
  unfold dirIds
  rw [List.mem_eraseDups, List.mem_append, absolute_changed]
  by_cases hp₀ : m.source.present m.disk c.path = true
  · -- registered before: loaded below the directory
    have hsource : c.path ∈ m.sourceIds := hcan.mem_sourceIds.mpr ⟨hc, hrule, hp₀⟩
    have hentry := hs.entry_eq c.path
    rw [reloaded, if_neg hne, if_pos hsource] at hentry
    refine Or.inr (Or.inl (mem_loadedBelow.mpr ⟨_, hentry, ?_⟩))
    rw [Bool.and_eq_true, bne_iff_ne]
    exact ⟨hs.origin_ne c.path _ hentry hne, hparents⟩
  · by_cases hp₁ : (c.apply m.source).present m.disk c.path = true
    · -- created by the change: the source has it below the directory under a rule file name
      have hname : m.source.isRuleFile c.path = true := by
        have hr := hrule
        simp only [isRuleFile, hc, Bool.or_eq_true, List.contains_iff_mem] at hr
        exact hr.elim (hnew (eq_false_of_ne_true hp₀) hp₁) id
      obtain ⟨files', unreadable', hmem', -⟩ := SourceChange.memory_apply c hmem
      have hdiscover : c.path ∈ (c.apply m.source).discover m.disk (some (m.absolute dir).toString) := by
        refine (RuleFileSource.mem_discover_memory hmem' _ c.path).mpr
          ⟨by rw [SourceChange.isRuleFile_apply]; exact hname, hp₁, fun d hd => ?_⟩
        rw [← Option.some.inj hd,
          PosixPath.ofString_toString (hcan.wellRooted.resolved dir).canonical]
        exact hparents
      refine Or.inr (Or.inr ?_)
      rw [presentBelow]
      simp only [Manager.changed, hdir, if_true]
      exact List.mem_map.mpr ⟨c.path, hdiscover, hcan.wellRooted.normalize_id hc⟩
    · -- gone before and after: registered by no reload
      left
      have hcan' := (hs.changed c hc).1.canonical
      rw [SyncedAt, hcan'.reloaded_eq_none hne (Or.inr (eq_false_of_ne_true hp₁))]
      exact (hs.entry_eq c.path).trans (hcan.reloaded_eq_none hne (Or.inr (eq_false_of_ne_true hp₀)))

/-- A change below a directory of the workspace, told by notifying the directory, leaves the
manager in step with its source. -/
theorem Synced.changeBelow (hs : m.Synced) (c : SourceChange)
    (hc : (m.absolute c.path).toString = c.path) (dir : String)
    (hdir : (m.absolute dir == m.root || (m.absolute dir).isUnder m.root) = true)
    (hbelow : (m.absolute c.path).isUnder (m.absolute dir) = true)
    (hnew : m.source.present m.disk c.path = false →
      (c.apply m.source).present m.disk c.path = true → c.path ∈ m.outerFiles →
        m.source.isRuleFile c.path = true) :
    ((notifyDirectoryChanged dir).run (m.changed c)).2.Synced := by
  obtain ⟨ho₁, hsync₁⟩ := hs.changed c hc
  rw [run_notifyDirectoryChanged]
  obtain ⟨-, ho₂, hsync₂⟩ := ho₁.forM ((m.changed c).dirIds dir)
  refine ⟨ho₂, fun q => hsync₂ q ?_⟩
  by_cases hq : q = c.path
  · subst hq
    cases hrule : m.isRuleFile c.path with
    | false => exact Or.inl (hsync₁ _ (Or.inr hrule))
    | true =>
      rcases hs.changed_reached c hc dir hdir hbelow hnew hrule with hsynced | hmem
      · exact Or.inl hsynced
      · exact Or.inr ⟨⟨c.path, hmem, hc⟩, by rw [isRuleFile_changed]; exact hrule⟩
  · exact Or.inl (hsync₁ q (Or.inl hq))

/-- A notification of any path or directory keeps a manager in step with its source. -/
theorem Synced.notify (hs : m.Synced) (path : String) :
    ((notifyFileChanged path).run m).2.Synced :=
  ⟨(hs.toOrderly.notify path).2.1, fun q => (hs.toOrderly.notify path).2.2 q (Or.inl (hs.syncedAt q))⟩

theorem Synced.notifyDirectory (hs : m.Synced) (dir : String) :
    ((notifyDirectoryChanged dir).run m).2.Synced := by
  rw [run_notifyDirectoryChanged]
  obtain ⟨-, ho, hsync⟩ := hs.toOrderly.forM (m.dirIds dir)
  exact ⟨ho, fun q => hsync q (Or.inl (hs.syncedAt q))⟩

section Create

variable (root : PosixPath) (config : Config) (source : RuleFileSource) (disk : FileTree) (v : Nat)

/-- A manager that loads its rule files is the manager that does not, reloaded. -/
theorem create_true :
    create root config source disk true v =
      (loadRuleFiles.run (create root config source disk false v)).2 := rfl

theorem entry_create_false (q : String) :
    (create root config source disk false v).registry.entry q = none := rfl

/-- Loading the rule files keeps the setup of a new manager. -/
theorem sameSetup_create :
    SameSetup (create root config source disk false v) (create root config source disk true v) :=
  (loadRuleFiles_reads _ (Or.inl (entry_create_false root config source disk v defaultsId))).1

/-- A new manager has cached no verdict. -/
theorem cache_entries_create : (create root config source disk true v).cache.entries = [] := by
  have hfresh : (create root config source disk false v).cache.entries = [] := rfl
  have hsub := (loadRuleFiles_reads _
    (Or.inl (entry_create_false root config source disk v defaultsId))).2.1
  rw [create_true]
  exact VerdictCache.entries_eq_nil_of_subset hsub hfresh

/-- A manager that has loaded its rule files from a source written in ids is in step with it. -/
theorem synced_create (hroot : root.Canonical) (habs : root.isAbsolute = true)
    (hmemory : ∃ files unreadable, source.store = .memory files unreadable)
    (hids : ∀ q, source.present disk q = true → (root.resolveFrom q).toString = q) :
    (create root config source disk true v).Synced := by
  have hwell : (create root config source disk false v).WellRooted := ⟨hroot, habs⟩
  have ho : (create root config source disk false v).Orderly := by
    refine ⟨⟨hwell, hmemory, hids, fun o ho => ?_⟩, fun q rs hq _ => ?_⟩
    · obtain ⟨p, -, rfl⟩ := List.mem_map.mp ho
      exact hwell.absolute_id (expandUser [] p)
    · exact absurd ((entry_create_false root config source disk v q).symm.trans hq) (by simp)
  exact (ho.reload (Or.inl (entry_create_false root config source disk v defaultsId))).2

end Create

/-! ## Queries through an empty cache -/

/-- New contents for a rule file only drop cached verdicts. -/
theorem mem_entries_onRuleFileChanged (path contents : String) {e : CacheEntry}
    (he : e ∈ ((onRuleFileChanged path contents).run m).2.cache.entries) : e ∈ m.cache.entries := by
  simp only [onRuleFileChanged, StateT.run_bind, StateT.run_get, pure_bind] at he
  split at he
  · split at he
    · exact he
    · rw [run_rebuild] at he
      exact VerdictCache.mem_invalidate_entries he
  · rw [run_rebuild] at he
    exact VerdictCache.mem_invalidate_entries he

/-- A notification only drops cached verdicts. -/
theorem mem_entries_notifyFileChanged (path : String) {e : CacheEntry}
    (he : e ∈ ((notifyFileChanged path).run m).2.cache.entries) : e ∈ m.cache.entries := by
  simp only [notifyFileChanged, StateT.run_bind, StateT.run_get, pure_bind] at he
  generalize (m.absolute path).toString = id at he
  split at he
  · split at he
    · -- a rule file that is gone is unregistered
      exact VerdictCache.mem_invalidate_entries he
    · split at he
      · -- an unreadable one is published empty
        exact VerdictCache.mem_invalidate_entries he
      · -- new contents are published, unchanged ones change nothing
        exact mem_entries_onRuleFileChanged _ _ he
  · exact he

theorem mem_entries_forM : ∀ (paths : List String) {m : Manager} {e : CacheEntry},
    e ∈ ((paths.forM notifyFileChanged).run m).2.cache.entries → e ∈ m.cache.entries
  | [], _, _, he => he
  | p :: paths, _, _, he => mem_entries_notifyFileChanged p (mem_entries_forM paths he)

/-- A directory notification only drops cached verdicts. -/
theorem mem_entries_notifyDirectoryChanged (dir : String) {e : CacheEntry}
    (he : e ∈ ((notifyDirectoryChanged dir).run m).2.cache.entries) : e ∈ m.cache.entries := by
  rw [run_notifyDirectoryChanged] at he
  exact mem_entries_forM _ he

/-- A step that reads the manager runs its continuation on the manager it reads. -/
theorem run_bind_get {α : Type} (f : Manager → Engine α) :
    (get >>= f).run.run m = (f m).run.run m := rfl

theorem run_resolve (path : String) (isDirectory : Bool) :
    (resolve path isDirectory).run.run m = (resolveAt (m.absolute path) isDirectory).run.run m :=
  run_bind_get fun m => resolveAt (m.absolute path) isDirectory

theorem run_resolveAt (p : PosixPath) (isDirectory : Bool) :
    ((resolveAt p isDirectory).run.run m).1 =
      match ((m.resolver.resolve p.toString isDirectory true).run.run m.cache).1 with
      | .ok v => .ok v
      | .error e => .error (.mismatch e) := by
  rw [resolveAt, run_bind_get, onCache, run_bind_get]
  rcases (m.resolver.resolve p.toString isDirectory true).run.run m.cache with ⟨_ | _, c⟩ <;> rfl

/-- Through a cache that holds no verdict, a query gets the verdict of the rule sets that judge
the path. -/
theorem run_resolveAt_of_entries_nil (hc : m.cache.entries = []) (p : PosixPath)
    (isDirectory : Bool) :
    ((resolveAt p isDirectory).run.run m).1 =
      match Resolver.verdictOf m.config.ignoreCase.holds (PosixPath.normalize p.toString)
          isDirectory (m.registry.applicable (PosixPath.normalize p.toString)) with
      | .ok v => .ok v
      | .error e => .error (.mismatch e) := by
  -- the registered rule sets are told apart by id alone, so also by id and version
  have hU : VersionsUnique (· ∈ m.registry.ruleSets) := fun _ _ ha hb hid _ =>
    List.inj_on_of_nodup_map m.registry.indexes.ids_nodup ha hb hid
  have hids : m.resolver.registry.IdsDistinct := m.registry.indexes.ids_nodup
  have hsound : CacheSound m.resolver.ignoreCase (· ∈ m.registry.ruleSets) m.cache := by
    intro e he
    simp [hc] at he
  rw [run_resolveAt, ((Resolver.resolve_faithful hU hids (fun _ h => h) p.toString isDirectory)
    m.cache hsound).1]
  rfl

/-- Two managers with empty caches, one root and case rule, and the same rule sets, versions
aside, answer every query alike. -/
theorem resolve_eq_of_entry_eq (hc : m.cache.entries = []) (hc' : m'.cache.entries = [])
    (hroot : m'.root = m.root) (hic : m'.config.ignoreCase = m.config.ignoreCase)
    (he : ∀ q, m'.registry.entry q = m.registry.entry q) (path : String) (isDirectory : Bool) :
    ((resolve path isDirectory).run.run m').1 = ((resolve path isDirectory).run.run m).1 := by
  have habs : m'.absolute path = m.absolute path := by rw [absolute, absolute, hroot]
  rw [run_resolve, run_resolve, habs, run_resolveAt_of_entries_nil hc',
    run_resolveAt_of_entries_nil hc, hic, Registry.verdictOf_applicable_eq he]

/-! ## Incremental maintenance -/

/-- The managers reached from `m₀` as its memory source changes at paths written as ids: each
change is told to the manager by notifying its path, or by notifying a directory of the
workspace above it (where an outer rule file the change creates must have a rule file name);
paths and directories may also be notified with no change, and the manager may reload. -/
inductive Incremental (m₀ : Manager) : Manager → Prop where
  | start : Incremental m₀ m₀
  | changeFile {m : Manager} (c : SourceChange) : Incremental m₀ m →
      (m.absolute c.path).toString = c.path →
      Incremental m₀ ((notifyFileChanged c.path).run (m.changed c)).2
  | changeBelow {m : Manager} (c : SourceChange) (dir : String) : Incremental m₀ m →
      (m.absolute c.path).toString = c.path →
      (m.absolute dir == m.root || (m.absolute dir).isUnder m.root) = true →
      (m.absolute c.path).isUnder (m.absolute dir) = true →
      (m.source.present m.disk c.path = false →
        (c.apply m.source).present m.disk c.path = true → c.path ∈ m.outerFiles →
          m.source.isRuleFile c.path = true) →
      Incremental m₀ ((notifyDirectoryChanged dir).run (m.changed c)).2
  | notify {m : Manager} (path : String) : Incremental m₀ m →
      Incremental m₀ ((notifyFileChanged path).run m).2
  | notifyDirectory {m : Manager} (dir : String) : Incremental m₀ m →
      Incremental m₀ ((notifyDirectoryChanged dir).run m).2
  | reload {m : Manager} : Incremental m₀ m → Incremental m₀ (reloadAll.run m).2

/-- Every manager reached incrementally from one in step with its source is in step with it. -/
theorem Incremental.synced {m₀ m : Manager} (h₀ : m₀.Synced) (hm : Incremental m₀ m) : m.Synced := by
  induction hm with
  | start => exact h₀
  | changeFile c _ hc ih => exact ih.changeFile c hc
  | changeBelow c dir _ hc hdir hbelow hnew ih => exact ih.changeBelow c hc dir hdir hbelow hnew
  | notify path _ ih => exact ih.notify path
  | notifyDirectory dir _ ih => exact ih.notifyDirectory dir
  | reload _ ih => exact (ih.toOrderly.reload ih.defaults).2

/-- Every manager reached incrementally from one that has cached no verdict has cached none:
notifications and reloads only drop cached verdicts. -/
theorem Incremental.cache_entries {m₀ m : Manager} (h₀ : m₀.Synced) (hc₀ : m₀.cache.entries = [])
    (hm : Incremental m₀ m) : m.cache.entries = [] := by
  induction hm with
  | start => exact hc₀
  | changeFile c _ _ ih =>
    exact VerdictCache.entries_eq_nil_of_subset (fun _ => mem_entries_notifyFileChanged c.path) ih
  | changeBelow c dir _ _ _ _ _ ih =>
    exact VerdictCache.entries_eq_nil_of_subset (fun _ => mem_entries_notifyDirectoryChanged dir) ih
  | notify path _ ih =>
    exact VerdictCache.entries_eq_nil_of_subset (fun _ => mem_entries_notifyFileChanged path) ih
  | notifyDirectory dir _ ih =>
    exact VerdictCache.entries_eq_nil_of_subset (fun _ => mem_entries_notifyDirectoryChanged dir) ih
  | reload hprev ih =>
    -- a reload needs the defaults registered as it registers them, which every state has
    exact VerdictCache.entries_eq_nil_of_subset
      (loadRuleFiles_reads _ (hprev.synced h₀).defaults).2.1 ih

end Manager

open Manager in
/-- Incremental maintenance agrees with a full reload. Take a manager that has loaded its rule
files from a memory source whose paths are written as the ids they name, and tell it each change
of the source by notifying the changed path or a directory of the workspace above it. Then every
id has registered what a reload now registers, versions aside: the same ids, each with the same
base directory, origin, patterns, errors and digest; so every query gets the verdict it gets
after a reload. -/
theorem incremental_agrees_with_reload (root : PosixPath) (config : Config)
    (source : RuleFileSource) (disk : FileTree) (v : Nat) (hroot : root.Canonical)
    (habs : root.isAbsolute = true)
    (hmemory : ∃ files unreadable, source.store = .memory files unreadable)
    (hids : ∀ q, source.present disk q = true → (root.resolveFrom q).toString = q)
    {m : Manager} (hm : Incremental (create root config source disk true v) m) :
    (∀ id, m.registry.entry id = (reloadAll.run m).2.registry.entry id) ∧
      ∀ path isDirectory, ((Manager.resolve path isDirectory).run.run m).1 =
        ((Manager.resolve path isDirectory).run.run (reloadAll.run m).2).1 := by
  have h₀ := synced_create root config source disk v hroot habs hmemory hids
  have hs := hm.synced h₀
  have hentry : ∀ id, (reloadAll.run m).2.registry.entry id = m.registry.entry id :=
    hs.entry_reload
  -- no verdict is cached before the reload, and the reload caches none
  have hc : m.cache.entries = [] := hm.cache_entries h₀ (cache_entries_create root config source disk v)
  obtain ⟨hsame, hsub, -⟩ := loadRuleFiles_reads m hs.defaults
  have hc' : (reloadAll.run m).2.cache.entries = [] := VerdictCache.entries_eq_nil_of_subset hsub hc
  refine ⟨fun id => (hentry id).symm, fun path isDirectory => ?_⟩
  exact (resolve_eq_of_entry_eq hc hc' hsame.root (congrArg Config.ignoreCase hsame.config) hentry
    path isDirectory).symm

open Manager in
/-- A workspace `/repo` whose source has its top rule file: a rule file is set in `sub`, told at
its path, and the top one removed, told at `/repo`; the manager then agrees with a reload. -/
theorem incremental_agrees_with_reload_repo :
    let root : PosixPath := ⟨"/", ["repo"]⟩
    let source : RuleFileSource := ⟨[".gitignore"], .memory [("/repo/.gitignore", "*.log\n")] []⟩
    let m₀ := create root Config.standard source FileTree.empty true 0
    let sub := SourceChange.set "/repo/sub/.gitignore" "!keep.log\n"
    let top := SourceChange.remove "/repo/.gitignore"
    let m₁ := ((notifyFileChanged sub.path).run (m₀.changed sub)).2
    let m := ((notifyDirectoryChanged "/repo").run (m₁.changed top)).2
    root.Canonical ∧ (∀ q, source.present FileTree.empty q = true → (root.resolveFrom q).toString = q) ∧
      Incremental m₀ m ∧
      (∀ id, m.registry.entry id = (reloadAll.run m).2.registry.entry id) ∧
      ∀ path isDirectory, ((Manager.resolve path isDirectory).run.run m).1 =
        ((Manager.resolve path isDirectory).run.run (reloadAll.run m).2).1 := by
  intro root source m₀ sub top m₁ m
  have hroot : PosixPath.Canonical ⟨"/", ["repo"]⟩ :=
    ⟨Or.inr (Or.inl rfl), by simp, by simp, by simp⟩
  have hids : ∀ q, source.present FileTree.empty q = true → (root.resolveFrom q).toString = q := by
    intro q hq
    have hq' : "/repo/.gitignore" = q := by
      simpa only [source, RuleFileSource.present, List.any_cons, List.any_nil, Bool.or_false,
        beq_iff_eq] using hq
    subst hq'
    cbv
  -- the setup of each manager is that of the manager before it loaded, with the source changed
  let fresh := create root Config.standard source FileTree.empty false 0
  have hs₀ : SameSetup fresh m₀ := sameSetup_create _ _ _ _ _
  have hs₁ : SameSetup (fresh.changed sub) m₁ :=
    (hs₀.changed sub).trans (notifyFileChanged_updates
      ((show (fresh.changed sub).WellRooted from ⟨hroot, rfl⟩).of_sameSetup (hs₀.changed sub))
      sub.path).setup
  have hc₁ : (m₀.absolute sub.path).toString = sub.path := by
    rw [hs₀.absolute]
    cbv
  have hc₂ : (m₁.absolute top.path).toString = top.path := by
    rw [hs₁.absolute, absolute_changed]
    cbv
  have hdir : (m₁.absolute "/repo" == m₁.root || (m₁.absolute "/repo").isUnder m₁.root) = true := by
    rw [hs₁.absolute, hs₁.root, absolute_changed, root_changed]
    cbv
  have hbelow : (m₁.absolute top.path).isUnder (m₁.absolute "/repo") = true := by
    rw [hs₁.absolute, absolute_changed]
    cbv
  have hpresent : m₁.source.present m₁.disk top.path = true := by
    have hstore : fresh.source.store = .memory [("/repo/.gitignore", "*.log\n")] [] := rfl
    rw [hs₁.source, hs₁.disk, source_changed, disk_changed,
      (SourceChange.present_read_apply_of_ne sub hstore (by decide)).1]
    cbv
  have hm : Incremental m₀ m :=
    .changeBelow top "/repo" (.changeFile sub .start hc₁) hc₂ hdir hbelow
      fun h => absurd (hpresent.symm.trans h) (by decide)
  exact ⟨hroot, hids, hm,
    incremental_agrees_with_reload root Config.standard source FileTree.empty 0 hroot rfl
      ⟨_, _, rfl⟩ hids hm⟩

open Manager in
/-- Without its two conditions incremental maintenance misses what a reload loads. A memory
source keeps files under their paths as written: a rule file set under
`/virtual/repo//sub/.gitignore` is looked for, when the change is told, under its id
`/virtual/repo/sub/.gitignore` and is not there, while a reload discovers it by name and loads it
under that id. And a directory notification finds rule files by name: the outer rule file
`.git/info/exclude`, created while the manager does not listen, is not checked when its directory
is notified, while a reload loads it. -/
theorem incremental_misses_reload :
    let config := { Config.standard with useDefaults := .given false }
    let m₀ := create ⟨"/", ["virtual", "repo"]⟩ config ⟨[".gitignore"], .memory [] []⟩
      FileTree.empty true 0
    let sub := SourceChange.set "/virtual/repo//sub/.gitignore" "*.tmp\n"
    let exclude := SourceChange.set "/virtual/repo/.git/info/exclude" "*.tmp\n"
    let mA := ((changeSource sub.apply sub.path).run m₀).2
    let mB := ((notifyDirectoryChanged "/virtual/repo").run
      ((changeSource exclude.apply exclude.path).run (close.run m₀).2).2).2
    mA.registry.entry "/virtual/repo/sub/.gitignore" = none ∧
      ((reloadAll.run mA).2.registry.entry "/virtual/repo/sub/.gitignore").isSome = true ∧
      mB.registry.entry "/virtual/repo/.git/info/exclude" = none ∧
      ((reloadAll.run mB).2.registry.entry "/virtual/repo/.git/info/exclude").isSome = true := by
  intro config m₀ sub exclude mA mB
  -- the manager before it loads: loading registers nothing, for the source is empty
  let fresh := create ⟨"/", ["virtual", "repo"]⟩ config ⟨[".gitignore"], .memory [] []⟩
    FileTree.empty false 0
  have hs₀ : SameSetup fresh m₀ := sameSetup_create _ _ _ _ _
  have hsrc : fresh.sourceIds = [] := by cbv
  have hdefaults : fresh.defaultsEntry = none := by
    have hnone : fresh.defaultPatterns = [] := rfl
    have hpat : fresh.builtDefaults.patterns = [] :=
      RuleSet.patterns_ofText_of_nil (by rw [hnone]; exact Pattern.ofText_empty _)
    rw [defaultsEntry, hpat]
    rfl
  have hempty : ∀ q, m₀.registry.entry q = none := by
    intro q
    show (loadRuleFiles.run fresh).2.registry.entry q = none
    rw [entry_loadRuleFiles (Or.inl (entry_create_false _ _ _ _ _ _)) (by rw [hsrc]; simp),
      reloaded, hsrc]
    split
    · exact hdefaults
    · simp
  have hcanonical : PosixPath.Canonical ⟨"/", ["virtual", "repo"]⟩ :=
    ⟨Or.inr (Or.inl rfl), by simp, by simp, by simp⟩
  -- from here on the loaded manager is known only through its setup and its empty registry
  clear_value m₀
  -- the file set under a doubled slash: told at its path, looked for under its id
  have hA : mA = ((notifyFileChanged sub.path).run (m₀.changed sub)).2 :=
    changeSource_apply hs₀.listening sub
  have hsA := hs₀.changed sub
  have hu := notifyFileChanged_updates
    ((show (fresh.changed sub).WellRooted from ⟨hcanonical, rfl⟩).of_sameSetup hsA) sub.path
  have hid : ((m₀.changed sub).absolute sub.path).toString = "/virtual/repo/sub/.gitignore" := by
    rw [hsA.absolute]
    cbv
  rw [hid, hsA.settled] at hu
  have hsettled : (fresh.changed sub).settled "/virtual/repo/sub/.gitignore" none = none := by
    have hrule : (fresh.changed sub).isRuleFile "/virtual/repo/sub/.gitignore" = true := by cbv
    have hpresent : (fresh.changed sub).source.present (fresh.changed sub).disk
        "/virtual/repo/sub/.gitignore" = false := by cbv
    rw [settled, if_pos hrule, hpresent]
    rfl
  have hA₁ : mA.registry.entry "/virtual/repo/sub/.gitignore" = none := by
    rw [hA, hu.entry_self, show (m₀.changed sub).registry = m₀.registry from rfl, hempty, hsettled]
  -- a reload discovers the file by name and normalises its path into the id
  have hidsA : mA.sourceIds = ["/virtual/repo/sub/.gitignore"] := by
    rw [hA, hu.setup.sourceIds, hsA.sourceIds]
    cbv
  have hA₂ : ((reloadAll.run mA).2.registry.entry "/virtual/repo/sub/.gitignore").isSome = true := by
    have hdef : mA.registry.entry defaultsId = none := by
      rw [hA, hu.entry_other defaultsId (by decide)]
      exact hempty defaultsId
    exact isSome_entry_reload (Or.inl hdef) (by rw [hidsA]; decide) (by rw [hidsA]; simp)
  -- the outer rule file created unseen: a directory notification looks for rule file names
  let mB₁ := (close.run m₀).2.changed exclude
  have hsB := hs₀.changed exclude
  have hdirIds : mB₁.dirIds "/virtual/repo" = [] := by
    have hloaded : mB₁.loadedBelow (mB₁.absolute "/virtual/repo") = [] := by
      refine List.eq_nil_iff_forall_not_mem.mpr fun q hq => ?_
      obtain ⟨e, he, -⟩ := mem_loadedBelow.mp hq
      rw [show mB₁.registry = m₀.registry from rfl, hempty] at he
      cases he
    have hpresent : mB₁.presentBelow (mB₁.absolute "/virtual/repo") = [] := by
      rw [show mB₁.presentBelow = (m₀.changed exclude).presentBelow from rfl, hsB.presentBelow,
        show mB₁.absolute = (m₀.changed exclude).absolute from rfl, hsB.absolute]
      cbv
    rw [dirIds, hloaded, hpresent]
    rfl
  have hB : mB = mB₁ := by
    show ((notifyDirectoryChanged "/virtual/repo").run
      ((changeSource exclude.apply exclude.path).run (close.run m₀).2).2).2 = mB₁
    rw [changeSource_of_not_listening rfl exclude, run_notifyDirectoryChanged, hdirIds]
    rfl
  have hidsB : mB.sourceIds = ["/virtual/repo/.git/info/exclude"] := by
    rw [hB, show mB₁.sourceIds = (m₀.changed exclude).sourceIds from rfl, hsB.sourceIds]
    cbv
  have hdefB : mB.registry.entry defaultsId = none := by
    rw [hB]
    exact hempty defaultsId
  refine ⟨hA₁, hA₂, ?_, isSome_entry_reload (Or.inl hdefB) (by rw [hidsB]; decide)
    (by rw [hidsB]; simp)⟩
  rw [hB]
  exact hempty _

end IgnoreRules
