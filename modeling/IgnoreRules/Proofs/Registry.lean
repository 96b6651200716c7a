import IgnoreRules.Registry
import IgnoreRules.Proofs.Ancestry
import Mathlib.Data.String.Basic

/-!
# The reachable registries

A registry is reachable (registry.py:84–195) when a sequence of registrations, removals, wholesale
replacements and clears produces it from the empty registry (`Registry.Reachable`). Every change
keeps ids distinct (`Reachable.idsDistinct`), and on a registry with distinct ids the rule sets that
judge a path, gathered bucket by bucket over its ancestors, are the registered rule sets whose base
directory is a proper ancestor of the path, taken in the order of `Registry.all`: by depth of the
base directory, then origin, then id (`applicable_eq_filter_all`).

- `RuleSet.Precedes`: that order, made strict.
- `mem_applicable`, `pairwise_applicable`: which rule sets judge a path, and in which order.
-/

namespace IgnoreRules

/-- Shallower base directories first, then lower origins, then smaller ids. -/
def RuleSet.Precedes (a b : RuleSet) : Prop :=
  a.baseDir.depth < b.baseDir.depth ∨
    (a.baseDir.depth = b.baseDir.depth ∧
      (a.origin < b.origin ∨ (a.origin = b.origin ∧ a.id < b.id)))

theorem RuleSet.Precedes.depth_le {a b : RuleSet} (h : a.Precedes b) :
    a.baseDir.depth ≤ b.baseDir.depth := by
  rcases h with h | ⟨h, -⟩ <;> omega

instance : Std.Irrefl RuleSet.Precedes where
  irrefl a h := by
    rcases h with h | ⟨-, h | ⟨-, h⟩⟩
    · exact Nat.lt_irrefl _ h
    · exact Int.lt_irrefl _ h
    · exact lt_irrefl a.id h

/-- `Precedes` never holds both ways. -/
theorem RuleSet.Precedes.asymm {a b : RuleSet} (hab : a.Precedes b) : ¬ b.Precedes a := by
  intro hba
  rcases hab with hab | ⟨hdab, hab | ⟨hoab, hab⟩⟩
  · exact absurd hba.depth_le (Nat.not_le.mpr hab)
  · rcases hba with hba | ⟨-, hba | ⟨hoba, -⟩⟩
    · exact absurd hba (hdab ▸ Nat.lt_irrefl _)
    · exact lt_asymm hab hba
    · exact absurd (hoba ▸ hab) (lt_irrefl _)
  · rcases hba with hba | ⟨-, hba | ⟨-, hba⟩⟩
    · exact absurd hba (hdab ▸ Nat.lt_irrefl _)
    · exact absurd (hoab ▸ hba) (lt_irrefl _)
    · exact lt_asymm hab hba

instance : Std.Antisymm RuleSet.Precedes where
  antisymm _ _ hab hba := absurd hba hab.asymm

namespace Registry

variable {r : Registry} {p : PosixPath}

/-- The registries produced from the empty one by any sequence of changes. -/
inductive Reachable : Registry → Prop where
  | empty : Reachable Registry.empty
  | register {r : Registry} (rs : RuleSet) : Reachable r → Reachable (r.register rs).2
  | unregister {r : Registry} (id : String) : Reachable r → Reachable (r.unregister id).2
  | replaceAll {r : Registry} (ruleSets : List RuleSet) :
      Reachable r → Reachable (r.replaceAll ruleSets).2
  | clear {r : Registry} : Reachable r → Reachable r.clear

/-- No id is held by two rule sets. -/
def IdsDistinct (r : Registry) : Prop := (r.ruleSets.map (·.id)).Nodup

/-- Every reachable registry holds each id at most once. -/
theorem Reachable.idsDistinct (h : r.Reachable) : r.IdsDistinct := by
  induction h with
  | empty => exact List.nodup_nil
  | register rs _ ih => exact nodup_ids_upsert ih rs
  | @unregister r id _ ih =>
    unfold Registry.unregister
    split
    · exact ih
    · exact ih.sublist (List.filter_sublist.map _)
  | replaceAll ruleSets _ _ => exact nodup_ids_foldl_upsert ruleSets [] List.nodup_nil
  | clear _ => exact List.nodup_nil

/-- Distinct ids, as a relation between the registered rule sets. -/
theorem IdsDistinct.pairwise (h : r.IdsDistinct) : r.ruleSets.Pairwise (·.id ≠ ·.id) :=
  List.pairwise_map.mp h

/-! ## The orders of buckets and of all rule sets -/

/-- Of two rule sets in bucket order with different ids, the first precedes. -/
theorem precedes_of_bucketOrder {a b : RuleSet} (hdepth : a.baseDir.depth = b.baseDir.depth)
    (h : bucketOrder a b = true) (hid : a.id ≠ b.id) : a.Precedes b := by
  rcases bucketOrder_iff.mp h with h | ⟨h, h'⟩
  · exact Or.inr ⟨hdepth, Or.inl h⟩
  · exact Or.inr ⟨hdepth, Or.inr ⟨h, lt_of_le_of_ne h' hid⟩⟩

/-- The comparison that sorts `Registry.all`. -/
theorem all_eq : r.all = r.ruleSets.mergeSort fun a b =>
    a.baseDir.depth < b.baseDir.depth ||
      (a.baseDir.depth == b.baseDir.depth && bucketOrder a b) := rfl

theorem pairwise_all (h : r.IdsDistinct) : r.all.Pairwise RuleSet.Precedes := by
  have hsorted : r.all.Pairwise fun a b => (a.baseDir.depth < b.baseDir.depth ||
      (a.baseDir.depth == b.baseDir.depth && bucketOrder a b)) = true := by
    rw [all_eq]
    refine List.pairwise_mergeSort (fun a b c hab hbc => ?_) (fun a b => ?_) _
    · simp only [Bool.or_eq_true, decide_eq_true_eq, Bool.and_eq_true, beq_iff_eq] at *
      rcases hab with hab | ⟨hab, hab'⟩ <;> rcases hbc with hbc | ⟨hbc, hbc'⟩
      · exact Or.inl (by omega)
      · exact Or.inl (by omega)
      · exact Or.inl (by omega)
      · exact Or.inr ⟨hab.trans hbc, bucketOrder_trans a b c hab' hbc'⟩
    · have htotal := bucketOrder_total a b
      simp only [Bool.or_eq_true, decide_eq_true_eq, Bool.and_eq_true, beq_iff_eq] at *
      rcases Nat.lt_trichotomy a.baseDir.depth b.baseDir.depth with h | h | h
      · exact Or.inl (Or.inl h)
      · rcases htotal with h' | h'
        · exact Or.inl (Or.inr ⟨h, h'⟩)
        · exact Or.inr (Or.inr ⟨h.symm, h'⟩)
      · exact Or.inr (Or.inl h)
  have hids : r.all.Pairwise (·.id ≠ ·.id) :=
    h.pairwise.perm (List.mergeSort_perm _ _).symm fun hne => hne.symm
  refine (hsorted.and hids).imp fun ⟨hle, hid⟩ => ?_
  simp only [Bool.or_eq_true, decide_eq_true_eq, Bool.and_eq_true, beq_iff_eq] at hle
  rcases hle with hlt | ⟨heq, hbo⟩
  · exact Or.inl hlt
  · exact precedes_of_bucketOrder heq hbo hid

/-! ## The rule sets that judge a path -/

theorem mem_bucket {rs : RuleSet} {dir : PosixPath} :
    rs ∈ r.bucket dir ↔ rs ∈ r.ruleSets ∧ rs.baseDir = dir :=
  r.indexes.mem_bucket dir rs

/-- The shortcut for an empty index changes nothing: every bucket is empty then. -/
theorem applicable_eq_flatMap : r.applicable p = p.parents.reverse.flatMap r.bucket := by
  unfold applicable
  split
  · rename_i hempty
    have hnil : r.byDir = [] := List.isEmpty_iff.mp hempty
    simp [bucket, hnil]
  · rfl

/-- The rule sets that judge a path are the registered ones above it. -/
theorem mem_applicable {rs : RuleSet} :
    rs ∈ r.applicable p ↔ rs ∈ r.ruleSets ∧ p.isUnder rs.baseDir = true := by
  simp only [applicable_eq_flatMap, List.mem_flatMap, List.mem_reverse, PosixPath.mem_parents, mem_bucket]
  constructor
  · rintro ⟨dir, hdir, hrs, rfl⟩
    exact ⟨hrs, hdir⟩
  · rintro ⟨hrs, hdir⟩
    exact ⟨rs.baseDir, hdir, hrs, rfl⟩

/-- Bucket by bucket, root-most first, each bucket by origin and id. -/
theorem pairwise_applicable (_h : r.IdsDistinct) : (r.applicable p).Pairwise RuleSet.Precedes := by
  rw [applicable_eq_flatMap, List.pairwise_flatMap]
  constructor
  · intro dir _
    have hids : (r.bucket dir).Pairwise (·.id ≠ ·.id) :=
      List.pairwise_map.mp (r.indexes.bucket_ids_nodup dir)
    refine List.Pairwise.imp_of_mem (fun {a b} ha hb ⟨hab, hid⟩ => ?_)
      ((r.indexes.sorted dir).and hids)
    have hdepth : a.baseDir.depth = b.baseDir.depth := by
      rw [(mem_bucket.mp ha).2, (mem_bucket.mp hb).2]
    exact precedes_of_bucketOrder hdepth hab hid
  · refine (List.pairwise_reverse.mpr PosixPath.pairwise_parents).imp fun hlt a ha b hb => ?_
    refine Or.inl ?_
    rw [(mem_bucket.mp ha).2, (mem_bucket.mp hb).2]
    exact hlt

/-- On a registry with distinct ids, the rule sets that judge a path are the registered rule sets
above it, root-most first, then by origin and id. -/
theorem applicable_eq_filter_all (h : r.IdsDistinct) :
    r.applicable p = r.all.filter fun rs => p.isUnder rs.baseDir := by
  refine List.Pairwise.eq_of_mem_iff (pairwise_applicable h)
    ((pairwise_all h).sublist List.filter_sublist) fun rs => ?_
  rw [mem_applicable, List.mem_filter, Registry.all, List.mem_mergeSort]

/-- The rule sets that judge a directory are those that judge a path below it and lie above the
directory. -/
theorem applicable_of_isUnder (h : r.IdsDistinct) {dir : PosixPath} (hdir : p.isUnder dir = true) :
    r.applicable dir = (r.applicable p).filter fun rs => dir.isUnder rs.baseDir := by
  rw [applicable_eq_filter_all h, applicable_eq_filter_all h, List.filter_filter]
  refine List.filter_congr fun rs _ => ?_
  by_cases hrs : dir.isUnder rs.baseDir = true
  · simp [hrs, PosixPath.isUnder_trans hdir hrs]
  · simp [hrs]

end Registry

end IgnoreRules
