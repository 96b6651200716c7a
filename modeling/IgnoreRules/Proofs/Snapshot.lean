import IgnoreRules.Proofs.Registry
import Mathlib.Data.Finset.Card

/-!
# The snapshot a registry publishes

A snapshot keeps its index of base directories in step with its rule sets (registry.py:16–195),
whatever registrations, removals, wholesale replacements and clears produced it: it carries the
proof (`Registry.indexes`), and each change rebuilds that proof for the index it updates. Here the
invariant is read in the index's own terms (`Registry.Represents`): each registered rule set lies in
exactly one bucket, that of its base directory; each rule set in a bucket is the registered one of
its id; no bucket is empty; each bucket is strictly ordered by origin and id and repeats no id; and
no directory is listed twice. From it follow which rule sets judge a path, each once and in which
order, and that the count of directories with rules counts the distinct base directories.

## Main statements

- `Registry.represents`: every snapshot satisfies `Registry.Represents`.
- `Registry.mem_directories`, `Registry.directoriesWithRules_eq_card`: the listed directories are
  the base directories of the rule sets.
- `snapshot_invariant`: the invariant, the rule sets that judge a path, the count of directories,
  and one generation for each change that publishes.
-/

namespace IgnoreRules

/-- Of two rule sets of one directory, the one of lower origin, or of the same origin and a
smaller id, sweeps first. -/
def RuleSet.SweepsBefore (a b : RuleSet) : Prop :=
  a.origin < b.origin ∨ (a.origin = b.origin ∧ a.id < b.id)

namespace Registry

variable {r : Registry}

/-- What the index of a snapshot is to its rule sets: each registered rule set lies in exactly one
bucket, the one listed with its base directory; each rule set in a bucket is the registered one
of its id; no bucket is empty; each bucket is strictly ordered by origin and id, with no id twice;
and no directory is listed twice. -/
structure Represents (r : Registry) : Prop where
  one_bucket : ∀ rs ∈ r.ruleSets, (r.byDir.filter fun e => rs ∈ e.2).map (·.1) = [rs.baseDir]
  current : ∀ e ∈ r.byDir, ∀ rs ∈ e.2, r.get? rs.id = some rs
  nonempty : ∀ e ∈ r.byDir, e.2 ≠ []
  sorted : ∀ e ∈ r.byDir, e.2.Pairwise RuleSet.SweepsBefore
  ids_nodup : ∀ e ∈ r.byDir, (e.2.map (·.id)).Nodup
  dirs_nodup : r.directories.Nodup

/-- The entry of a directory holds its bucket. -/
theorem bucket_fst_of_mem {e : PosixPath × List RuleSet} (he : e ∈ r.byDir) :
    r.bucket e.1 = e.2 :=
  DirIndex.bucket_eq_of_mem r.indexes.dirs_nodup he

/-- In bucket order and with different ids, the first sweeps before the second. -/
theorem sweepsBefore_of_bucketOrder {a b : RuleSet} (h : bucketOrder a b = true)
    (hid : a.id ≠ b.id) : a.SweepsBefore b := by
  rcases bucketOrder_iff.mp h with h | ⟨h, h'⟩
  · exact Or.inl h
  · exact Or.inr ⟨h, lt_of_le_of_ne h' hid⟩

/-- The buckets holding a registered rule set are those listed with its base directory. -/
theorem mem_entry_iff {rs : RuleSet} (hrs : rs ∈ r.ruleSets) {e : PosixPath × List RuleSet}
    (he : e ∈ r.byDir) : rs ∈ e.2 ↔ e.1 = rs.baseDir := by
  rw [← bucket_fst_of_mem he, mem_bucket]
  exact ⟨fun h => h.2.symm, fun h => ⟨hrs, h.symm⟩⟩

/-- A directory is listed exactly when a registered rule set is based there. -/
theorem mem_directories {d : PosixPath} : d ∈ r.directories ↔ ∃ rs ∈ r.ruleSets, rs.baseDir = d := by
  constructor
  · intro hd
    obtain ⟨e, he, rfl⟩ := List.mem_map.mp hd
    -- a listed bucket is never empty, and what it holds is based at its directory
    obtain ⟨rs, hrs⟩ := List.exists_mem_of_ne_nil _ (r.indexes.noEmpty e he)
    exact ⟨rs, (mem_bucket.mp (bucket_fst_of_mem he ▸ hrs)).1,
      (mem_bucket.mp (bucket_fst_of_mem he ▸ hrs)).2⟩
  · rintro ⟨rs, hrs, rfl⟩
    exact DirIndex.mem_dirs_of_bucket_ne_nil (List.ne_nil_of_mem (mem_bucket.mpr ⟨hrs, rfl⟩))

/-- Every snapshot's index is in step with its rule sets. -/
theorem represents (r : Registry) : r.Represents where
  one_bucket rs hrs := by
    have hnodup : ((r.byDir.filter fun e => rs ∈ e.2).map (·.1)).Nodup :=
      r.indexes.dirs_nodup.sublist (List.filter_sublist.map _)
    have hall : ∀ d ∈ (r.byDir.filter fun e => rs ∈ e.2).map (·.1), d = rs.baseDir := by
      intro d hd
      obtain ⟨e, he, rfl⟩ := List.mem_map.mp hd
      rw [List.mem_filter, decide_eq_true_eq] at he
      exact (mem_entry_iff hrs he.1).mp he.2
    have hmem : rs.baseDir ∈ (r.byDir.filter fun e => rs ∈ e.2).map (·.1) := by
      obtain ⟨e, he, hd⟩ := List.mem_map.mp (mem_directories.mpr ⟨rs, hrs, rfl⟩)
      exact List.mem_map.mpr
        ⟨e, List.mem_filter.mpr ⟨he, decide_eq_true ((mem_entry_iff hrs he).mpr hd)⟩, hd⟩
    -- a list without repeats, every entry of which is the base directory, is that one entry
    generalize (r.byDir.filter fun e => rs ∈ e.2).map (·.1) = L at hnodup hall hmem
    have hrep : L = List.replicate L.length rs.baseDir := List.eq_replicate_iff.mpr ⟨rfl, hall⟩
    have hle : L.length ≤ 1 := List.nodup_replicate.mp (hrep ▸ hnodup)
    have hpos : 0 < L.length := List.length_pos_of_mem hmem
    rw [hrep, show L.length = 1 by omega, List.replicate_one]
  current e he rs hrs := by
    have hreg := (mem_bucket.mp (bucket_fst_of_mem he ▸ hrs)).1
    exact find?_id_eq r.indexes.ids_nodup hreg
  nonempty := r.indexes.noEmpty
  sorted e he := by
    rw [← bucket_fst_of_mem he]
    have hids := List.pairwise_map.mp (r.indexes.bucket_ids_nodup e.1)
    exact ((r.indexes.sorted e.1).and hids).imp fun ⟨hab, hid⟩ => sweepsBefore_of_bucketOrder hab hid
  ids_nodup e he := bucket_fst_of_mem he ▸ r.indexes.bucket_ids_nodup e.1
  dirs_nodup := r.indexes.dirs_nodup

/-- The count of directories with rules is the number of distinct base directories. -/
theorem directoriesWithRules_eq_card (r : Registry) :
    r.stats.directoriesWithRules = (r.ruleSets.map (·.baseDir)).toFinset.card := by
  have hsame : r.directories.toFinset = (r.ruleSets.map (·.baseDir)).toFinset := by
    ext d
    simp only [List.mem_toFinset, mem_directories, List.mem_map]
  have hdirs : r.directories.Nodup := r.indexes.dirs_nodup
  show r.directories.length = _
  rw [← hsame, List.toFinset_card_of_nodup hdirs]

/-- The rule sets that judge a path are each there once. -/
theorem nodup_applicable (p : PosixPath) : (r.applicable p).Nodup :=
  (pairwise_applicable r.indexes.ids_nodup : (r.applicable p).Pairwise _).nodup

end Registry

open Registry in
/-- Every snapshot a registry publishes, whatever changes produced it, keeps its index in step
with its rule sets; the rule sets that judge a path are the registered ones based at a proper
ancestor of it, each once, by depth of the base directory, then origin, then id; the count of
directories with rules is the number of distinct base directories; and each registration,
wholesale replacement, clear and removal of a present id publishes exactly one generation, while
removing an absent id changes nothing. -/
theorem snapshot_invariant (r : Registry) :
    r.Represents ∧
    (∀ p rs, rs ∈ r.applicable p ↔ rs ∈ r.ruleSets ∧ p.isUnder rs.baseDir = true) ∧
    (∀ p, (r.applicable p).Nodup ∧ (r.applicable p).Pairwise RuleSet.Precedes) ∧
    r.stats.directoriesWithRules = (r.ruleSets.map (·.baseDir)).toFinset.card ∧
    (∀ rs, (r.register rs).2.generation = r.generation + 1) ∧
    (∀ ruleSets, (r.replaceAll ruleSets).2.generation = r.generation + 1) ∧
    r.clear.generation = r.generation + 1 ∧
    (∀ id, (r.get? id).isSome → (r.unregister id).2.generation = r.generation + 1) ∧
    (∀ id, r.get? id = none → (r.unregister id).2 = r) := by
  refine ⟨r.represents, fun p rs => mem_applicable,
    fun p => ⟨nodup_applicable p, pairwise_applicable r.indexes.ids_nodup⟩,
    directoriesWithRules_eq_card r, fun _ => rfl, fun _ => rfl, rfl, fun id hid => ?_,
    fun id hid => ?_⟩
  · obtain ⟨rs, hrs⟩ := Option.isSome_iff_exists.mp hid
    unfold unregister
    split
    · rename_i hnone
      exact absurd (hnone ▸ hrs) (by simp)
    · rfl
  · unfold unregister
    split
    · rfl
    · rename_i hsome
      exact absurd (hid ▸ hsome) (by simp)

end IgnoreRules
