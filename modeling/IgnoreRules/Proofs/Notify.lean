import IgnoreRules.Manager.Notify
import IgnoreRules.Proofs.Registry

/-!
# What a notification changes

A notification of a path checks one rule file (manager.py:268–293): the one whose id is the text of
the path resolved from the root. It brings the rule set of that id in line with the source and
leaves every other id, the workspace, the configuration, the source and the file tree as they were
(`notifyFileChanged_updates`). What it leaves for the id depends only on the source and on what was
registered before (`Manager.settled`), and a second notification changes nothing more
(`settled_settled`). Versions aside: a rule set built again gets a new version, so rule sets are
compared with their versions forgotten (`RuleSet.eraseVersion`, `Registry.entry`).

Ids name themselves when the root is canonical and absolute (`Manager.WellRooted`): resolving the
text of a resolved path gives it back, so the rule file a notification reads is the one whose
rule set it changes.

A notification of a directory checks the ids loaded below it and those the source has below it
(`Manager.dirIds`), one by one.
-/

namespace IgnoreRules

/-- A rule set with its version forgotten: what two builds of the same file share. -/
def RuleSet.eraseVersion (rs : RuleSet) : RuleSet := { rs with version := 0 }

namespace RuleSet

@[simp] theorem eraseVersion_ofText (v : Nat) (id : String) (baseDir : PosixPath)
    (contents : String) (origin : Origin) (maxPatterns : Int) :
    (ofText v id baseDir contents origin maxPatterns).eraseVersion =
      ofText 0 id baseDir contents origin maxPatterns := rfl

@[simp] theorem eraseVersion_empty (v : Nat) (id : String) (baseDir : PosixPath)
    (errors : List Diagnostic) (origin : Origin) :
    (empty v id baseDir errors origin).eraseVersion = empty 0 id baseDir errors origin := rfl

@[simp] theorem eraseVersion_eraseVersion (rs : RuleSet) :
    rs.eraseVersion.eraseVersion = rs.eraseVersion := rfl

@[simp] theorem digest_eraseVersion (rs : RuleSet) : rs.eraseVersion.digest = rs.digest := rfl

@[simp] theorem id_eraseVersion (rs : RuleSet) : rs.eraseVersion.id = rs.id := rfl

@[simp] theorem origin_eraseVersion (rs : RuleSet) : rs.eraseVersion.origin = rs.origin := rfl

end RuleSet

namespace Registry

variable {rules : List RuleSet} {x : RuleSet} {q : String}

/-- Among rule sets of distinct ids, the one found for an id is the one of that id. -/
theorem find?_eq_some_iff (h : (rules.map (·.id)).Nodup) :
    rules.find? (·.id == q) = some x ↔ x ∈ rules ∧ x.id = q := by
  constructor
  · intro hx
    exact ⟨List.mem_of_find?_eq_some hx, by simpa using List.find?_some hx⟩
  · rintro ⟨hx, rfl⟩
    exact find?_id_eq h hx

theorem find?_upsert (h : (rules.map (·.id)).Nodup) (rs : RuleSet) (q : String) :
    (upsert rules rs).find? (·.id == q) =
      if rs.id = q then some rs else rules.find? (·.id == q) := by
  refine Option.ext fun x => ?_
  rw [find?_eq_some_iff (nodup_ids_upsert h rs), mem_upsert_iff]
  split
  · rename_i hq
    constructor
    · rintro ⟨⟨-, hne⟩ | rfl, hx⟩
      · exact absurd (hx.trans hq.symm) hne
      · rfl
    · rintro ⟨⟩
      exact ⟨Or.inr rfl, hq⟩
  · rename_i hq
    rw [find?_eq_some_iff h]
    constructor
    · rintro ⟨⟨hx, -⟩ | rfl, hxq⟩
      · exact ⟨hx, hxq⟩
      · exact absurd hxq hq
    · rintro ⟨hx, hxq⟩
      exact ⟨Or.inl ⟨hx, fun he => hq (he ▸ hxq)⟩, hxq⟩

/-- Registering in turn, the last rule set of an id wins over those before it and over what
was there. -/
theorem find?_foldl_upsert (l : List RuleSet) {acc : List RuleSet}
    (h : (acc.map (·.id)).Nodup) (q : String) :
    (l.foldl upsert acc).find? (·.id == q) =
      (l.reverse.find? (·.id == q)).or (acc.find? (·.id == q)) := by
  induction l generalizing acc with
  | nil => simp
  | cons rs l ih =>
    rw [List.foldl_cons, ih (nodup_ids_upsert h rs), find?_upsert h, List.reverse_cons,
      List.find?_append, Option.or_assoc]
    by_cases hq : rs.id = q <;> simp [hq]

/-- The rule set registered for an id. -/
theorem get?_eq_some_iff (r : Registry) : r.get? q = some x ↔ x ∈ r.ruleSets ∧ x.id = q :=
  find?_eq_some_iff r.indexes.ids_nodup

theorem get?_register (r : Registry) (rs : RuleSet) (q : String) :
    (r.register rs).2.get? q = if rs.id = q then some rs else r.get? q :=
  find?_upsert r.indexes.ids_nodup rs q

theorem get?_unregister (r : Registry) (id q : String) :
    (r.unregister id).2.get? q = if id = q then none else r.get? q := by
  unfold unregister
  split
  · rename_i hnone
    split
    · rename_i hq
      exact hq ▸ hnone
    · rfl
  · refine Option.ext fun x => ?_
    show (r.ruleSets.filter (·.id != id)).find? (·.id == q) = some x ↔ _
    rw [find?_eq_some_iff (r.indexes.ids_nodup.sublist (List.filter_sublist.map _)),
      List.mem_filter, bne_iff_ne]
    split
    · rename_i hq
      subst hq
      simp only [reduceCtorEq, iff_false]
      exact fun ⟨⟨_, hne⟩, hx⟩ => hne hx
    · rw [get?_eq_some_iff]
      exact ⟨fun ⟨⟨hx, _⟩, hxq⟩ => ⟨hx, hxq⟩,
        fun ⟨hx, hxq⟩ => ⟨⟨hx, fun he => by simp_all⟩, hxq⟩⟩

theorem get?_replaceAll (r : Registry) (l : List RuleSet) (q : String) :
    (r.replaceAll l).2.get? q = l.reverse.find? (·.id == q) := by
  show (l.foldl upsert []).find? (·.id == q) = _
  rw [@find?_foldl_upsert l [] List.nodup_nil q]
  simp

/-- The rule set registered for an id, its version forgotten. -/
def entry (r : Registry) (id : String) : Option RuleSet := (r.get? id).map RuleSet.eraseVersion

theorem entry_register (r : Registry) (rs : RuleSet) (q : String) :
    (r.register rs).2.entry q = if rs.id = q then some rs.eraseVersion else r.entry q := by
  unfold entry
  rw [get?_register]
  split <;> rfl

theorem entry_unregister (r : Registry) (id q : String) :
    (r.unregister id).2.entry q = if id = q then none else r.entry q := by
  unfold entry
  rw [get?_unregister]
  split <;> rfl

end Registry

namespace Manager

variable {m m' m'' : Manager}

/-! ## What stays: the setup of a manager -/

/-- `m'` has the setup of `m`: workspace root, configuration, source, file tree, outer rule files
and listening are the same; only the registry, the cache and the next version may differ. -/
structure SameSetup (m m' : Manager) : Prop where
  root : m'.root = m.root
  config : m'.config = m.config
  source : m'.source = m.source
  disk : m'.disk = m.disk
  outerFiles : m'.outerFiles = m.outerFiles
  listening : m'.listening = m.listening

theorem SameSetup.refl (m : Manager) : SameSetup m m := ⟨rfl, rfl, rfl, rfl, rfl, rfl⟩

theorem SameSetup.trans (h₁ : SameSetup m m') (h₂ : SameSetup m' m'') : SameSetup m m'' :=
  ⟨h₂.root.trans h₁.root, h₂.config.trans h₁.config, h₂.source.trans h₁.source,
    h₂.disk.trans h₁.disk, h₂.outerFiles.trans h₁.outerFiles, h₂.listening.trans h₁.listening⟩

theorem SameSetup.absolute (h : SameSetup m m') : m'.absolute = m.absolute := by
  funext path
  simp only [Manager.absolute, h.root]

theorem SameSetup.isRuleFile (h : SameSetup m m') : m'.isRuleFile = m.isRuleFile := by
  funext path
  simp only [Manager.isRuleFile, h.absolute, h.outerFiles, h.source]

theorem SameSetup.baseDirFor (h : SameSetup m m') : m'.baseDirFor = m.baseDirFor := by
  funext id
  simp only [Manager.baseDirFor, h.outerFiles, h.root]

theorem SameSetup.originFor (h : SameSetup m m') : m'.originFor = m.originFor := by
  funext id
  simp only [Manager.originFor, h.outerFiles]

/-! ## Ids: the texts of resolved paths -/

/-- A manager whose root is canonical and absolute, as a workspace root is. The paths it resolves
are then `Resolved`, so the text of one, resolved again, gives it back. -/
structure WellRooted (m : Manager) : Prop where
  canonical : m.root.Canonical
  isAbsolute : m.root.isAbsolute = true

theorem WellRooted.resolved (h : m.WellRooted) (path : String) : (m.absolute path).Resolved :=
  PosixPath.resolved_resolveFrom h.canonical h.isAbsolute path

/-- The id of a path names itself. -/
theorem WellRooted.absolute_id (h : m.WellRooted) (path : String) :
    (m.absolute (m.absolute path).toString).toString = (m.absolute path).toString := by
  rw [Manager.absolute, (h.resolved path).resolveFrom_toString]

theorem WellRooted.of_sameSetup (h : m.WellRooted) (hs : SameSetup m m') : m'.WellRooted :=
  ⟨hs.root ▸ h.canonical, hs.root ▸ h.isAbsolute⟩

/-! ## What a rule file is made into -/

/-- The rule set built from a rule file's contents, its version forgotten. -/
def built (m : Manager) (id contents : String) : RuleSet :=
  RuleSet.ofText 0 id (m.baseDirFor id) contents (m.originFor id) m.config.maxPatternsPerFile

/-- The rule set a rule file with these contents gets, given what was registered for it before
(versions forgotten): the registered one while the contents are unchanged. -/
def reread (m : Manager) (id contents : String) : Option RuleSet → RuleSet
  | some current => if current.digest == contentDigest contents then current else m.built id contents
  | none => m.built id contents

/-- The rule set of a rule file as the source has it now, given what was registered for it
before (versions forgotten): empty, with the reason, when it cannot be read. -/
def fromSource (m : Manager) (id : String) (before : Option RuleSet) : RuleSet :=
  match m.source.read m.disk id with
  | .error reason =>
    RuleSet.empty 0 id (m.baseDirFor id) [Diagnostic.unreadable id reason] (m.originFor id)
  | .ok contents => m.reread id contents before

/-- What notifying a path leaves registered under its id, versions forgotten, given what was
registered before: no change for a path that is no rule file, nothing for a rule file that is
gone, and what the source has for one that exists. -/
def settled (m : Manager) (id : String) (before : Option RuleSet) : Option RuleSet :=
  if m.isRuleFile id then
    if m.source.present m.disk id then some (m.fromSource id before) else none
  else before

theorem digest_reread (m : Manager) (id contents : String) (before : Option RuleSet) :
    (m.reread id contents before).digest = contentDigest contents := by
  unfold reread
  split
  · split
    · rename_i h
      exact beq_iff_eq.mp h
    · rfl
  · rfl

/-- A rule set read again from unchanged contents is kept. -/
theorem reread_reread (m : Manager) (id contents : String) (before : Option RuleSet) :
    m.reread id contents (some (m.reread id contents before)) = m.reread id contents before := by
  rw [reread, if_pos (beq_iff_eq.mpr (digest_reread m id contents before))]

theorem fromSource_fromSource (m : Manager) (id : String) (before : Option RuleSet) :
    m.fromSource id (some (m.fromSource id before)) = m.fromSource id before := by
  unfold fromSource
  split
  · rfl
  · rename_i contents hread
    exact reread_reread m id contents before

/-- Notifying the same path twice settles on what the first notification left. -/
theorem settled_settled (m : Manager) (id : String) (before : Option RuleSet) :
    m.settled id (m.settled id before) = m.settled id before := by
  unfold settled
  by_cases hrule : m.isRuleFile id = true
  · by_cases hpresent : m.source.present m.disk id = true
    · simp only [hrule, hpresent, if_true, fromSource_fromSource]
    · simp only [hrule, hpresent, if_true, Bool.false_eq_true, if_false]
  · simp only [hrule, Bool.false_eq_true, if_false]

theorem SameSetup.settled (h : SameSetup m m') : m'.settled = m.settled := by
  funext id before
  simp only [Manager.settled, fromSource, reread, built, h.isRuleFile, h.source, h.disk,
    h.baseDirFor, h.originFor, h.config]

/-! ## One notification -/

/-- `m'` is `m` with the rule set of `id` made `e` (versions forgotten), and nothing else but the
cache and the next version changed. -/
structure Updates (m m' : Manager) (id : String) (e : Option RuleSet) : Prop where
  setup : SameSetup m m'
  entry_self : m'.registry.entry id = e
  entry_other : ∀ q, q ≠ id → m'.registry.entry q = m.registry.entry q

theorem Updates.refl (m : Manager) (id : String) : Updates m m id (m.registry.entry id) :=
  ⟨.refl m, rfl, fun _ _ => rfl⟩

theorem run_rebuild (m : Manager) (id contents : String) :
    ((onRuleFileChanged.rebuild contents id).run m).2 =
      { m with nextVersion := m.nextVersion + 1,
               registry := (m.registry.register (RuleSet.ofText m.nextVersion id (m.baseDirFor id)
                 contents (m.originFor id) m.config.maxPatternsPerFile)).2,
               cache := (m.cache.invalidate id).2 } := rfl

/-- Registering a rule set changes the entry of its id alone. -/
theorem updates_register (m : Manager) (rs : RuleSet) (v : Nat) (c : VerdictCache) :
    Updates m { m with nextVersion := v, registry := (m.registry.register rs).2, cache := c } rs.id
      (some rs.eraseVersion) := by
  refine ⟨⟨rfl, rfl, rfl, rfl, rfl, rfl⟩, ?_, fun q hq => ?_⟩
  · simp [Registry.entry_register]
  · simp [Registry.entry_register, Ne.symm hq]

theorem onRuleFileChanged_updates (path contents : String) :
    Updates m ((onRuleFileChanged path contents).run m).2 (m.absolute path).toString
      (some (m.reread (m.absolute path).toString contents
        (m.registry.entry (m.absolute path).toString))) := by
  simp only [onRuleFileChanged, StateT.run_bind, StateT.run_get, pure_bind]
  generalize (m.absolute path).toString = id
  have hrebuild := run_rebuild m id contents
  cases hget : m.registry.get? id with
  | none =>
    simp only [Registry.entry, hget, Option.map_none, reread]
    rw [hrebuild]
    exact updates_register m _ _ _
  | some current =>
    have hbefore : m.registry.entry id = some current.eraseVersion := by
      simp [Registry.entry, hget]
    rw [hbefore]
    simp only
    by_cases hsame : (current.digest == contentDigest contents) = true
    · have hkept : (current.eraseVersion.digest == contentDigest contents) = true := hsame
      rw [if_pos hsame, reread, if_pos hkept, ← hbefore]
      exact Updates.refl m id
    · have hchanged : ¬(current.eraseVersion.digest == contentDigest contents) = true := hsame
      rw [if_neg hsame, reread, if_neg hchanged, hrebuild]
      exact updates_register m _ _ _

theorem run_onRuleFileRemoved (m : Manager) (path : String) :
    ((onRuleFileRemoved path).run m).2 =
      { m with registry := (m.registry.unregister (m.absolute path).toString).2,
               cache := (m.cache.invalidate (m.absolute path).toString).2 } := rfl

theorem onRuleFileRemoved_updates (path : String) :
    Updates m ((onRuleFileRemoved path).run m).2 (m.absolute path).toString none := by
  rw [run_onRuleFileRemoved]
  refine ⟨⟨rfl, rfl, rfl, rfl, rfl, rfl⟩, ?_, fun q hq => ?_⟩
  · simp [Registry.entry_unregister]
  · simp [Registry.entry_unregister, Ne.symm hq]

/-- Notifying a path brings the rule set of its id in line with the source and changes nothing
else but the cache and the next version. -/
theorem notifyFileChanged_updates (h : m.WellRooted) (path : String) :
    Updates m ((notifyFileChanged path).run m).2 (m.absolute path).toString
      (m.settled (m.absolute path).toString (m.registry.entry (m.absolute path).toString)) := by
  have hid := h.absolute_id path
  simp only [notifyFileChanged, StateT.run_bind, StateT.run_get, pure_bind]
  generalize (m.absolute path).toString = id at hid ⊢
  unfold settled
  by_cases hrule : m.isRuleFile id = true
  · by_cases hpresent : m.source.present m.disk id = true
    · rw [if_pos hrule, if_neg (by simp [hpresent]), if_pos hrule, if_pos hpresent, fromSource]
      cases hread : m.source.read m.disk id with
      | error reason =>
        exact updates_register m _ _ _
      | ok contents =>
        have hupd := onRuleFileChanged_updates (m := m) id contents
        rw [hid] at hupd
        exact hupd
    · rw [if_pos hrule, if_pos (by simp [hpresent]), if_pos hrule, if_neg hpresent]
      have hupd := onRuleFileRemoved_updates (m := m) id
      rw [hid] at hupd
      exact hupd
  · rw [if_neg hrule, if_neg hrule]
    exact Updates.refl m id

/-! ## A directory notification -/

/-- The ids of the rule sets registered below a directory, the defaults apart. -/
def loadedBelow (m : Manager) (base : PosixPath) : List String :=
  (m.registry.all.filter fun rs =>
    rs.origin != Origin.defaults && (PosixPath.ofString rs.id).parents.contains base).map (·.id)

/-- The ids of the rule files the source has below a directory of the workspace. -/
def presentBelow (m : Manager) (base : PosixPath) : List String :=
  if base == m.root || base.isUnder m.root then
    (m.source.discover m.disk (some base.toString)).map fun p => (PosixPath.normalize p).toString
  else []

/-- The ids a notification of a directory checks, each once. -/
def dirIds (m : Manager) (dir : String) : List String :=
  (m.loadedBelow (m.absolute dir) ++ m.presentBelow (m.absolute dir)).eraseDups

theorem run_notifyDirectoryChanged (m : Manager) (dir : String) :
    (notifyDirectoryChanged dir).run m =
      (m.dirIds dir, (((m.dirIds dir).forM notifyFileChanged).run m).2) := rfl

/-- An id is loaded below a directory when a rule set other than the defaults is registered
for it and the directory is one of its ancestors. -/
theorem mem_loadedBelow {base : PosixPath} {q : String} :
    q ∈ m.loadedBelow base ↔ ∃ e, m.registry.entry q = some e ∧
      (e.origin != Origin.defaults && (PosixPath.ofString q).parents.contains base) = true := by
  simp only [loadedBelow, List.mem_map, List.mem_filter, Registry.all, List.mem_mergeSort,
    Registry.entry, Option.map_eq_some_iff]
  constructor
  · rintro ⟨rs, ⟨hrs, hcond⟩, rfl⟩
    exact ⟨rs.eraseVersion, ⟨rs, (Registry.get?_eq_some_iff _).mpr ⟨hrs, rfl⟩, rfl⟩, hcond⟩
  · rintro ⟨e, ⟨rs, hget, rfl⟩, hcond⟩
    obtain ⟨hrs, rfl⟩ := (Registry.get?_eq_some_iff _).mp hget
    exact ⟨rs, ⟨hrs, hcond⟩, rfl⟩

theorem SameSetup.presentBelow (h : SameSetup m m') : m'.presentBelow = m.presentBelow := by
  funext base
  simp only [Manager.presentBelow, h.root, h.source, h.disk]

end Manager

end IgnoreRules
