import IgnoreRules.Source

/-!
# Memory sources and their changes

A memory source answers from two association lists (file_loader.py:144–194), the readable files and
the unreadable ones, keyed by path exactly as written. Here its answers are read through
`List.lookup`: a path is present when either list has it, discovery lists the present paths that are
rule files by name (below a directory when one is given), and setting, removing or spoiling one path
leaves every other path's answers as they were.

## Main statements

- `RuleFileSource.present_memory`, `RuleFileSource.mem_discover_memory`: what a memory source
  says is there.
- `SourceChange`: one change of a memory source at one path.
- `SourceChange.present_read_apply_of_ne`: a change answers as before away from its path.
-/

namespace IgnoreRules

namespace RuleFileSource

variable {entries : List (String × String)} {key value q : String}

theorem mem_keys_iff_lookup : q ∈ entries.map (·.1) ↔ (entries.lookup q).isSome := by
  induction entries with
  | nil => simp
  | cons e rest ih =>
    obtain ⟨k, v⟩ := e
    by_cases hq : q = k
    · subst hq
      simp
    · simp [List.lookup_cons, beq_eq_false_iff_ne.mpr hq, ih, hq]

theorem any_key_eq_isSome_lookup : entries.any (·.1 == q) = (entries.lookup q).isSome := by
  rw [Bool.eq_iff_iff, List.any_eq_true, ← mem_keys_iff_lookup, List.mem_map]
  exact ⟨fun ⟨e, he, hq⟩ => ⟨e, he, beq_iff_eq.mp hq⟩, fun ⟨e, he, hq⟩ => ⟨e, he, beq_iff_eq.mpr hq⟩⟩

/-- Replacing the values of a key in place. -/
theorem lookup_map_replace (entries : List (String × String)) (key value q : String) :
    (entries.map fun (k, v) => if k == key then (k, value) else (k, v)).lookup q =
      (entries.lookup q).map fun v => if q = key then value else v := by
  induction entries with
  | nil => rfl
  | cons e rest ih =>
    obtain ⟨k, v⟩ := e
    rw [List.map_cons]
    show List.lookup q ((if k == key then (k, value) else (k, v)) :: _) = _
    by_cases hq : q = k
    · subst hq
      by_cases hk : q = key
      · rw [if_pos (beq_iff_eq.mpr hk)]
        simp [hk]
      · rw [if_neg (fun h => hk (beq_iff_eq.mp h))]
        simp [hk]
    · have hqk : (q == k) = false := beq_eq_false_iff_ne.mpr hq
      split <;> simp only [List.lookup_cons, hqk, ih]

theorem lookup_assign : (assign entries key value).lookup q =
    if q = key then some value else entries.lookup q := by
  unfold assign
  split
  · rename_i hany
    rw [lookup_map_replace]
    by_cases hq : q = key
    · subst hq
      rw [any_key_eq_isSome_lookup] at hany
      obtain ⟨v, hv⟩ := Option.isSome_iff_exists.mp hany
      simp [hv]
    · simp [hq]
  · rename_i hany
    rw [List.lookup_append]
    by_cases hq : q = key
    · subst hq
      have hnone : entries.lookup q = none := by
        rw [any_key_eq_isSome_lookup] at hany
        exact Option.not_isSome_iff_eq_none.mp hany
      simp [hnone]
    · simp [hq, List.lookup_cons, beq_eq_false_iff_ne.mpr hq]

theorem lookup_drop : (drop entries key).lookup q = if q = key then none else entries.lookup q := by
  induction entries with
  | nil => simp [drop]
  | cons e rest ih =>
    obtain ⟨k, v⟩ := e
    unfold drop at ih ⊢
    rw [List.filter_cons]
    by_cases hk : k = key
    · -- the entry of the key goes
      rw [if_neg (by simp [hk]), ih]
      by_cases hq : q = key
      · simp [hq]
      · have hqk : (q == k) = false := beq_eq_false_iff_ne.mpr (hk ▸ hq)
        simp [hq, List.lookup_cons, hqk]
    · rw [if_pos (by simp [hk]), List.lookup_cons, List.lookup_cons, ih]
      by_cases hq : q = k
      · subst hq
        simp [hk]
      · simp [beq_eq_false_iff_ne.mpr hq]


variable {s : RuleFileSource} {disk : FileTree} {files unreadable : List (String × String)}

theorem present_memory (h : s.store = .memory files unreadable) (q : String) :
    s.present disk q = ((files.lookup q).isSome || (unreadable.lookup q).isSome) := by
  simp only [present, h, any_key_eq_isSome_lookup]

theorem any_key_iff_mem (entries : List (String × String)) (q : String) :
    entries.any (·.1 == q) = true ↔ q ∈ entries.map (·.1) := by
  rw [any_key_eq_isSome_lookup, mem_keys_iff_lookup]

/-- The rule files a memory source finds, below a directory when one is given, are those it has
and recognises by name. -/
theorem mem_discover_memory (h : s.store = .memory files unreadable) (start : Option String)
    (p : String) :
    p ∈ s.discover disk start ↔ s.isRuleFile p = true ∧ s.present disk p = true ∧
      ∀ dir, start = some dir →
        (PosixPath.ofString p).parents.contains (PosixPath.ofString dir) = true := by
  rw [present_memory h, Bool.or_eq_true, ← mem_keys_iff_lookup, ← mem_keys_iff_lookup]
  have hpaths : p ∈ (files.map (·.1)).filter s.isRuleFile ++
      ((unreadable.map (·.1)).filter fun p => s.isRuleFile p && !(files.any (·.1 == p))) ↔
        s.isRuleFile p = true ∧ (p ∈ files.map (·.1) ∨ p ∈ unreadable.map (·.1)) := by
    constructor
    · intro hmem
      rcases List.mem_append.mp hmem with hf | hu
      · obtain ⟨hmem, hrule⟩ := List.mem_filter.mp hf
        exact ⟨hrule, Or.inl hmem⟩
      · obtain ⟨hmem, hcond⟩ := List.mem_filter.mp hu
        exact ⟨(Bool.and_eq_true _ _).mp hcond |>.1, Or.inr hmem⟩
    · rintro ⟨hrule, hf | hu⟩
      · exact List.mem_append_left _ (List.mem_filter.mpr ⟨hf, hrule⟩)
      · by_cases hf : p ∈ files.map (·.1)
        · exact List.mem_append_left _ (List.mem_filter.mpr ⟨hf, hrule⟩)
        · refine List.mem_append_right _ (List.mem_filter.mpr ⟨hu, ?_⟩)
          rw [Bool.and_eq_true, Bool.not_eq_true', Bool.eq_false_iff]
          exact ⟨hrule, fun hany => hf ((any_key_iff_mem files p).mp hany)⟩
  unfold discover
  rw [h]
  cases start with
  | none =>
    simp only [List.mem_mergeSort]
    rw [hpaths]
    exact ⟨fun ⟨hr, hp⟩ => ⟨hr, hp, fun _ h => absurd h (by simp)⟩, fun ⟨hr, hp, _⟩ => ⟨hr, hp⟩⟩
  | some dir =>
    simp only [List.mem_mergeSort]
    rw [List.mem_filter, hpaths]
    exact ⟨fun ⟨⟨hr, hp⟩, hc⟩ => ⟨hr, hp, fun d hd => Option.some.inj hd ▸ hc⟩,
      fun ⟨hr, hp, hc⟩ => ⟨⟨hr, hp⟩, hc dir rfl⟩⟩

end RuleFileSource

/-- A change of a memory source at one path. -/
inductive SourceChange where
  | set (path contents : String)
  | remove (path : String)
  | setUnreadable (path reason : String)
  deriving DecidableEq, Repr

namespace SourceChange

/-- The path a change is at. -/
def path : SourceChange → String
  | .set p _ | .remove p | .setUnreadable p _ => p

/-- The source after the change. -/
def apply : SourceChange → RuleFileSource → RuleFileSource
  | .set p contents, s => s.set p contents
  | .remove p, s => s.remove p
  | .setUnreadable p reason, s => s.setUnreadable p reason

variable {s : RuleFileSource} {disk : FileTree}

@[simp] theorem ruleFilenames_apply (c : SourceChange) (s : RuleFileSource) :
    (c.apply s).ruleFilenames = s.ruleFilenames := by
  cases c <;> simp only [apply, RuleFileSource.set, RuleFileSource.remove,
    RuleFileSource.setUnreadable] <;> split <;> rfl

theorem isRuleFile_apply (c : SourceChange) (s : RuleFileSource) :
    (c.apply s).isRuleFile = s.isRuleFile := by
  funext p
  simp only [RuleFileSource.isRuleFile, ruleFilenames_apply]

/-- A change keeps a memory source in memory. -/
theorem memory_apply (c : SourceChange) {files unreadable : List (String × String)}
    (h : s.store = .memory files unreadable) :
    ∃ files' unreadable', (c.apply s).store = .memory files' unreadable' ∧
      ∀ q, q ≠ c.path → files'.lookup q = files.lookup q ∧ unreadable'.lookup q = unreadable.lookup q := by
  cases c with
  | set p contents =>
    refine ⟨RuleFileSource.assign files p contents, RuleFileSource.drop unreadable p,
      by simp [apply, RuleFileSource.set, h], fun q hq => ?_⟩
    simp [RuleFileSource.lookup_assign, RuleFileSource.lookup_drop, show q ≠ p from hq]
  | remove p =>
    refine ⟨RuleFileSource.drop files p, RuleFileSource.drop unreadable p,
      by simp [apply, RuleFileSource.remove, h], fun q hq => ?_⟩
    simp [RuleFileSource.lookup_drop, show q ≠ p from hq]
  | setUnreadable p reason =>
    refine ⟨RuleFileSource.drop files p, RuleFileSource.assign unreadable p reason,
      by simp [apply, RuleFileSource.setUnreadable, h], fun q hq => ?_⟩
    simp [RuleFileSource.lookup_assign, RuleFileSource.lookup_drop, show q ≠ p from hq]

/-- Away from its path, a change of a memory source changes no answer of the source. -/
theorem present_read_apply_of_ne (c : SourceChange) {files unreadable : List (String × String)}
    (h : s.store = .memory files unreadable) {q : String} (hq : q ≠ c.path) :
    (c.apply s).present disk q = s.present disk q ∧ (c.apply s).read disk q = s.read disk q := by
  obtain ⟨files', unreadable', h', hsame⟩ := memory_apply c h
  obtain ⟨hf, hu⟩ := hsame q hq
  constructor
  · rw [RuleFileSource.present_memory h', RuleFileSource.present_memory h, hf, hu]
  · simp only [RuleFileSource.read, h', h, hf, hu]

end SourceChange

end IgnoreRules
