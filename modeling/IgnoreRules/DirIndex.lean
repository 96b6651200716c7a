import IgnoreRules.RuleSet

/-!
# The index of rule sets by base directory

A registry finds the rule sets that judge a path through an index from base directories to their
buckets (registry.py:16–165): the rule sets of one directory, ordered by origin and then id. Each
change of the registry updates the index instead of rebuilding it. A registration takes the rule set
of its id out of the bucket it was in when its directory changes, and puts the new one into the
bucket of its own directory in place of any rule set of that id; a removal takes a rule set out of
its bucket; a wholesale replacement groups the new rule sets afresh. A bucket left empty is dropped.

`Indexes rules idx` says that the index is in step with rule sets of distinct ids: its
directories are distinct, no bucket is empty, and the bucket of each directory holds exactly the
rule sets of that directory, in order, with no id twice. Every change keeps it in step
(`Indexes.register`, `Indexes.unregister`, `Indexes.group`), so a registry can carry it.

- `Registry.upsert`: registering by id, in place or at the end.
- `Registry.ordered`: the order of a bucket.
- `DirIndex.register`, `DirIndex.unregister`, `DirIndex.group`: the index after a change, and
  `DirIndex.bucket_register`, `DirIndex.bucket_withoutId`: which buckets change and how.
-/

namespace IgnoreRules

namespace Registry

/-- Replaces the rule set of the same id in place, or appends a new one. -/
def upsert (ruleSets : List RuleSet) (rs : RuleSet) : List RuleSet :=
  if ruleSets.any (·.id == rs.id) then ruleSets.map fun x => if x.id == rs.id then rs else x
  else ruleSets ++ [rs]

/-- Orders rule sets of one directory: by origin, then by id. -/
def bucketOrder (a b : RuleSet) : Bool :=
  a.origin < b.origin || (a.origin == b.origin && decide (a.id ≤ b.id))

/-- Sorts the rule sets of one directory by origin and then id. -/
def ordered (rules : List RuleSet) : List RuleSet := rules.mergeSort bucketOrder

variable {rules : List RuleSet} {rs x : RuleSet}

/-! ## Registering by id -/

/-- After registering `rs`, the rule sets are `rs` and those of the other ids. -/
theorem mem_upsert_iff : x ∈ upsert rules rs ↔ (x ∈ rules ∧ x.id ≠ rs.id) ∨ x = rs := by
  unfold upsert
  split
  · rename_i hany
    simp only [List.mem_map]
    constructor
    · rintro ⟨y, hy, rfl⟩
      by_cases h : y.id = rs.id
      · simp [h]
      · simp [h, hy]
    · rintro (⟨hx, hne⟩ | rfl)
      · exact ⟨x, hx, by simp [hne]⟩
      · obtain ⟨y, hy, hid⟩ := List.any_eq_true.mp hany
        exact ⟨y, hy, by simp [beq_iff_eq.mp hid]⟩
  · rename_i hany
    simp only [List.mem_append, List.mem_singleton]
    constructor
    · rintro (hx | rfl)
      · exact Or.inl ⟨hx, fun h => hany (List.any_eq_true.mpr ⟨x, hx, by simp [h]⟩)⟩
      · exact Or.inr rfl
    · rintro (⟨hx, -⟩ | rfl)
      · exact Or.inl hx
      · exact Or.inr rfl

/-- Registering keeps ids distinct: a present id is replaced in place, a new one appended. -/
theorem nodup_ids_upsert {l : List RuleSet} (h : (l.map (·.id)).Nodup) (rs : RuleSet) :
    ((upsert l rs).map (·.id)).Nodup := by
  unfold upsert
  split
  · have hids : (l.map fun x => if x.id == rs.id then rs else x).map (·.id) = l.map (·.id) := by
      rw [List.map_map]
      refine List.map_congr_left fun x _ => ?_
      by_cases hx : x.id = rs.id <;> simp [hx]
    rw [hids]
    exact h
  · rename_i hany
    rw [List.map_append, List.nodup_append]
    refine ⟨h, by simp, fun a ha b hb hab => ?_⟩
    obtain ⟨x, hx, rfl⟩ := List.mem_map.mp ha
    rw [List.map_singleton, List.mem_singleton] at hb
    subst hb
    exact hany (List.any_eq_true.mpr ⟨x, hx, by simp [hab]⟩)

theorem nodup_ids_foldl_upsert :
    ∀ (ruleSets acc : List RuleSet), (acc.map (·.id)).Nodup →
      ((ruleSets.foldl upsert acc).map (·.id)).Nodup
  | [], _, h => h
  | rs :: rest, _, h => nodup_ids_foldl_upsert rest _ (nodup_ids_upsert h rs)

/-- Among rule sets of distinct ids, the id tells them apart. -/
theorem eq_of_id_eq (h : (rules.map (·.id)).Nodup) {a b : RuleSet} (ha : a ∈ rules)
    (hb : b ∈ rules) (hid : a.id = b.id) : a = b := by
  induction rules with
  | nil => exact absurd ha List.not_mem_nil
  | cons y ys ih =>
    rw [List.map_cons, List.nodup_cons] at h
    have hfresh : ∀ z ∈ ys, z.id ≠ y.id := fun z hz hzy => h.1 (hzy ▸ List.mem_map_of_mem hz)
    rcases List.mem_cons.mp ha with rfl | ha' <;> rcases List.mem_cons.mp hb with rfl | hb'
    · rfl
    · exact absurd hid.symm (hfresh b hb')
    · exact absurd hid (hfresh a ha')
    · exact ih h.2 ha' hb'

/-- Among rule sets of distinct ids, the search by id finds the one of that id. -/
theorem find?_id_eq (h : (rules.map (·.id)).Nodup) (hx : x ∈ rules) :
    rules.find? (·.id == x.id) = some x := by
  cases hfind : rules.find? (·.id == x.id) with
  | none => exact absurd (beq_self_eq_true x.id) (List.find?_eq_none.mp hfind x hx)
  | some y =>
    have hid : y.id = x.id := by simpa using List.find?_some hfind
    rw [eq_of_id_eq h (List.mem_of_find?_eq_some hfind) hx hid]

/-! ## The order of a bucket -/

theorem bucketOrder_iff {a b : RuleSet} :
    bucketOrder a b = true ↔ a.origin < b.origin ∨ (a.origin = b.origin ∧ a.id ≤ b.id) := by
  simp [bucketOrder]

theorem bucketOrder_trans (a b c : RuleSet) (hab : bucketOrder a b = true)
    (hbc : bucketOrder b c = true) : bucketOrder a c = true := by
  rw [bucketOrder_iff] at *
  rcases hab with hab | ⟨hab, hid⟩ <;> rcases hbc with hbc | ⟨hbc, hid'⟩
  · exact Or.inl (Int.lt_trans hab hbc)
  · exact Or.inl (hbc ▸ hab)
  · exact Or.inl (hab ▸ hbc)
  · exact Or.inr ⟨hab.trans hbc, String.le_trans hid hid'⟩

theorem bucketOrder_total (a b : RuleSet) : (bucketOrder a b || bucketOrder b a) = true := by
  rw [Bool.or_eq_true, bucketOrder_iff, bucketOrder_iff]
  rcases Int.lt_trichotomy a.origin b.origin with h | h | h
  · exact Or.inl (Or.inl h)
  · rcases String.le_total a.id b.id with hid | hid
    · exact Or.inl (Or.inr ⟨h, hid⟩)
    · exact Or.inr (Or.inr ⟨h.symm, hid⟩)
  · exact Or.inr (Or.inl h)

@[simp] theorem mem_ordered : x ∈ ordered rules ↔ x ∈ rules := List.mem_mergeSort

theorem pairwise_ordered (rules : List RuleSet) :
    (ordered rules).Pairwise fun a b => bucketOrder a b = true :=
  List.pairwise_mergeSort bucketOrder_trans bucketOrder_total rules

theorem nodup_ids_ordered (h : (rules.map (·.id)).Nodup) : ((ordered rules).map (·.id)).Nodup :=
  ((List.mergeSort_perm rules bucketOrder).map _).nodup_iff.mpr h

theorem ordered_ne_nil (h : rules ≠ []) : ordered rules ≠ [] := by
  intro hnil
  have hlen := @List.length_mergeSort _ bucketOrder rules
  rw [← ordered, hnil, List.length_nil] at hlen
  exact h (List.eq_nil_of_length_eq_zero hlen.symm)

@[simp] theorem ordered_nil : ordered [] = [] := List.mergeSort_nil

end Registry

open Registry

/-- The buckets of rule sets by base directory, in the order the directories were added. -/
abbrev DirIndex := List (PosixPath × List RuleSet)

namespace DirIndex

/-- The bucket of a directory, empty when the directory has none. -/
def bucket (idx : DirIndex) (dir : PosixPath) : List RuleSet := (idx.lookup dir).getD []

/-- Sets the bucket of a directory: in its place when the directory has one, else at the end. -/
def assign (idx : DirIndex) (dir : PosixPath) (b : List RuleSet) : DirIndex :=
  if idx.any (·.1 == dir) then idx.map fun e => if e.1 == dir then (dir, b) else e
  else idx ++ [(dir, b)]

/-- Removes the bucket of a directory. -/
def drop (idx : DirIndex) (dir : PosixPath) : DirIndex := idx.filter (·.1 != dir)

/-- Takes the rule set of an id out of the bucket of a directory; a bucket left empty goes. -/
def withoutId (idx : DirIndex) (dir : PosixPath) (id : String) : DirIndex :=
  let remaining := (idx.bucket dir).filter (·.id != id)
  if remaining.isEmpty then idx.drop dir else idx.assign dir (ordered remaining)

/-- The index after registering `rs` where `previous` was the rule set of its id: the old one
leaves the bucket of its directory when the directory changes, and `rs` takes the place of any
rule set of its id in the bucket of its own directory. -/
def register (idx : DirIndex) (previous : Option RuleSet) (rs : RuleSet) : DirIndex :=
  let idx := match previous with
    | some prev => if prev.baseDir != rs.baseDir then idx.withoutId prev.baseDir rs.id else idx
    | none => idx
  idx.assign rs.baseDir (ordered ((idx.bucket rs.baseDir).filter (·.id != rs.id) ++ [rs]))

/-- The index after removing the rule set `previous`. -/
def unregister (idx : DirIndex) (previous : RuleSet) : DirIndex :=
  idx.withoutId previous.baseDir previous.id

/-- One rule set more in the bucket of its directory, at the end. -/
def collect (idx : DirIndex) (rs : RuleSet) : DirIndex :=
  idx.assign rs.baseDir (idx.bucket rs.baseDir ++ [rs])

/-- The index of rule sets of distinct ids: grouped by base directory, the directories in the
order they first appear, each bucket ordered. -/
def group (rules : List RuleSet) : DirIndex :=
  (rules.foldl collect []).map fun e => (e.1, ordered e.2)

variable {idx : DirIndex} {dir d : PosixPath} {b : List RuleSet}

/-! ## Buckets -/

theorem bucket_cons (e : PosixPath × List RuleSet) (idx : DirIndex) (d : PosixPath) :
    bucket (e :: idx) d = if d = e.1 then e.2 else bucket idx d := by
  obtain ⟨k, v⟩ := e
  simp only [bucket, List.lookup_cons]
  split <;> simp_all

@[simp] theorem bucket_nil (d : PosixPath) : bucket [] d = [] := rfl

theorem bucket_map_replace (idx : DirIndex) :
    bucket (idx.map fun e => if e.1 == dir then (dir, b) else e) d =
      if d = dir ∧ idx.any (·.1 == dir) then b else bucket idx d := by
  induction idx with
  | nil => simp
  | cons e rest ih =>
    rw [List.map_cons, bucket_cons, bucket_cons, ih, List.any_cons]
    by_cases he : e.1 = dir
    · have hhead : (if (e.1 == dir) = true then (dir, b) else e) = (dir, b) := if_pos (by simp [he])
      rw [hhead]
      by_cases hd : d = dir <;> simp [he, hd]
    · have hhead : (if (e.1 == dir) = true then (dir, b) else e) = e := if_neg (by simp [he])
      have hfirst : (e.1 == dir) = false := by simp [he]
      rw [hhead, hfirst, Bool.false_or]
      by_cases hd : d = e.1
      · subst hd
        simp [he]
      · simp [hd]

theorem bucket_append_single (idx : DirIndex) (hnew : idx.any (·.1 == dir) = false) :
    bucket (idx ++ [(dir, b)]) d = if d = dir then b else bucket idx d := by
  induction idx with
  | nil => by_cases hd : d = dir <;> simp [bucket_cons, hd]
  | cons e rest ih =>
    simp only [List.any_cons, Bool.or_eq_false_iff] at hnew
    rw [List.cons_append, bucket_cons, bucket_cons, ih hnew.2]
    by_cases hd : d = e.1
    · subst hd
      have hne : e.1 ≠ dir := by simpa using hnew.1
      simp [hne]
    · simp [hd]

theorem bucket_assign : (idx.assign dir b).bucket d = if d = dir then b else idx.bucket d := by
  unfold assign
  split
  · rename_i hany
    rw [bucket_map_replace]
    by_cases hd : d = dir <;> simp [hd, hany]
  · rename_i hnew
    exact bucket_append_single idx (Bool.eq_false_iff.mpr hnew)

theorem bucket_drop : (idx.drop dir).bucket d = if d = dir then [] else idx.bucket d := by
  induction idx with
  | nil => simp [drop]
  | cons e rest ih =>
    unfold drop at ih ⊢
    rw [List.filter_cons]
    by_cases he : e.1 = dir
    · have hkeep : (e.1 != dir) = false := by simp [he]
      rw [hkeep, if_neg (by simp), ih, bucket_cons]
      by_cases hd : d = dir
      · simp [hd]
      · have hne : d ≠ e.1 := fun h => hd (h.trans he)
        simp [hd, hne]
    · have hkeep : (e.1 != dir) = true := by simp [he]
      rw [hkeep, if_pos rfl, bucket_cons, bucket_cons, ih]
      by_cases hd : d = e.1
      · subst hd
        simp [he]
      · simp [hd]

theorem bucket_withoutId {id : String} :
    (idx.withoutId dir id).bucket d =
      if d = dir then ordered ((idx.bucket dir).filter (·.id != id)) else idx.bucket d := by
  dsimp only [withoutId]
  by_cases hrem : ((idx.bucket dir).filter (·.id != id)).isEmpty = true
  · rw [if_pos hrem, bucket_drop, List.isEmpty_iff.mp hrem, ordered_nil]
  · rw [if_neg hrem, bucket_assign]

/-- Registering changes the bucket of the new rule set's directory and, when the directory
changed, that of the old one; no other. -/
theorem bucket_register {previous : Option RuleSet} {rs : RuleSet} :
    (idx.register previous rs).bucket d =
      if d = rs.baseDir then ordered ((idx.bucket rs.baseDir).filter (·.id != rs.id) ++ [rs])
      else if previous.any (·.baseDir == d) then ordered ((idx.bucket d).filter (·.id != rs.id))
      else idx.bucket d := by
  unfold register
  cases previous with
  | none =>
    rw [bucket_assign]
    by_cases hd : d = rs.baseDir <;> simp [hd]
  | some prev =>
    dsimp only
    by_cases hmoved : prev.baseDir = rs.baseDir
    · rw [if_neg (by simp [hmoved]), bucket_assign]
      by_cases hd : d = rs.baseDir
      · simp [hd]
      · have hne : ¬ prev.baseDir = d := fun h => hd (h.symm.trans hmoved)
        simp [hd, hne]
    · -- the old rule set leaves the bucket of its own directory, which is not that of `rs`
      rw [if_pos (by simp [hmoved]), bucket_assign, bucket_withoutId, bucket_withoutId]
      by_cases hd : d = rs.baseDir
      · have hne : rs.baseDir ≠ prev.baseDir := fun h => hmoved h.symm
        simp [hd, hne]
      · by_cases hp : d = prev.baseDir
        · subst hp
          simp [hd]
        · have hne : ¬ prev.baseDir = d := fun h => hp h.symm
          simp [hd, hp, hne]

theorem bucket_map_ordered (idx : DirIndex) :
    bucket (idx.map fun e => (e.1, ordered e.2)) d = ordered (bucket idx d) := by
  induction idx with
  | nil => simp
  | cons e rest ih =>
    rw [List.map_cons, bucket_cons, bucket_cons, ih]
    by_cases hd : d = e.1 <;> simp [hd]

/-- Collecting rule sets one by one appends each to the bucket of its directory. -/
theorem bucket_foldl_collect (rules : List RuleSet) (acc : DirIndex) :
    (rules.foldl collect acc).bucket d = acc.bucket d ++ rules.filter (·.baseDir == d) := by
  induction rules generalizing acc with
  | nil => simp
  | cons rs rest ih =>
    rw [List.foldl_cons, ih, collect, bucket_assign, List.filter_cons]
    by_cases hd : d = rs.baseDir
    · simp [hd]
    · have hne : ¬ rs.baseDir = d := fun h => hd h.symm
      simp [hd, hne]

/-- With distinct directories, the bucket of a directory is the one listed with it. -/
theorem bucket_eq_of_mem {e : PosixPath × List RuleSet} (h : (idx.map (·.1)).Nodup)
    (he : e ∈ idx) : idx.bucket e.1 = e.2 := by
  induction idx with
  | nil => exact absurd he List.not_mem_nil
  | cons x rest ih =>
    rw [List.map_cons, List.nodup_cons] at h
    rw [bucket_cons]
    rcases List.mem_cons.mp he with rfl | he'
    · simp
    · have hne : e.1 ≠ x.1 := fun hx => h.1 (hx ▸ List.mem_map_of_mem he')
      rw [if_neg hne, ih h.2 he']

/-- A directory with a bucket is listed. -/
theorem mem_dirs_of_bucket_ne_nil (h : idx.bucket d ≠ []) : d ∈ idx.map (·.1) := by
  induction idx with
  | nil => exact absurd (bucket_nil d) h
  | cons x rest ih =>
    rw [bucket_cons] at h
    rw [List.map_cons, List.mem_cons]
    by_cases hd : d = x.1
    · exact Or.inl hd
    · rw [if_neg hd] at h
      exact Or.inr (ih h)

/-! ## Directories -/

theorem dirs_map_replace (idx : DirIndex) :
    (idx.map fun e => if e.1 == dir then (dir, b) else e).map (·.1) = idx.map (·.1) := by
  rw [List.map_map]
  refine List.map_congr_left fun e _ => ?_
  by_cases he : e.1 = dir <;> simp [he]

theorem nodup_dirs_assign (h : (idx.map (·.1)).Nodup) : ((idx.assign dir b).map (·.1)).Nodup := by
  unfold assign
  split
  · rw [dirs_map_replace]
    exact h
  · rename_i hnew
    rw [List.map_append, List.nodup_append]
    refine ⟨h, by simp, fun a ha c hc hac => ?_⟩
    obtain ⟨e, he, rfl⟩ := List.mem_map.mp ha
    simp only [List.map_cons, List.map_nil, List.mem_singleton] at hc
    exact hnew (List.any_eq_true.mpr ⟨e, he, by simp [hac, hc]⟩)

theorem nodup_dirs_drop (h : (idx.map (·.1)).Nodup) : ((idx.drop dir).map (·.1)).Nodup :=
  h.sublist (List.filter_sublist.map _)

theorem nodup_dirs_withoutId {id : String} (h : (idx.map (·.1)).Nodup) :
    ((idx.withoutId dir id).map (·.1)).Nodup := by
  dsimp only [withoutId]
  split
  · exact nodup_dirs_drop h
  · exact nodup_dirs_assign h

theorem nodup_dirs_register {previous : Option RuleSet} {rs : RuleSet}
    (h : (idx.map (·.1)).Nodup) : ((idx.register previous rs).map (·.1)).Nodup := by
  unfold register
  refine nodup_dirs_assign ?_
  cases previous with
  | none => exact h
  | some prev =>
    dsimp only
    split
    · exact nodup_dirs_withoutId h
    · exact h

theorem nodup_dirs_foldl_collect (rules : List RuleSet) (acc : DirIndex)
    (h : (acc.map (·.1)).Nodup) : ((rules.foldl collect acc).map (·.1)).Nodup := by
  induction rules generalizing acc with
  | nil => exact h
  | cons rs rest ih => exact ih _ (nodup_dirs_assign h)

/-! ## No empty bucket -/

/-- No bucket of the index is empty. -/
def NoEmpty (idx : DirIndex) : Prop := ∀ e ∈ idx, e.2 ≠ []

theorem NoEmpty.assign (h : idx.NoEmpty) (hb : b ≠ []) : (idx.assign dir b).NoEmpty := by
  intro e he
  unfold DirIndex.assign at he
  split at he
  · obtain ⟨e', he', rfl⟩ := List.mem_map.mp he
    split
    · exact hb
    · exact h e' he'
  · rcases List.mem_append.mp he with he | he
    · exact h e he
    · rw [List.mem_singleton.mp he]
      exact hb

theorem NoEmpty.drop (h : idx.NoEmpty) : (idx.drop dir).NoEmpty :=
  fun e he => h e (List.mem_filter.mp he).1

theorem NoEmpty.withoutId {id : String} (h : idx.NoEmpty) : (idx.withoutId dir id).NoEmpty := by
  dsimp only [DirIndex.withoutId]
  split
  · exact h.drop
  · rename_i hrem
    exact h.assign (ordered_ne_nil fun hnil => hrem (by rw [hnil]; rfl))

theorem NoEmpty.register {previous : Option RuleSet} {rs : RuleSet} (h : idx.NoEmpty) :
    (idx.register previous rs).NoEmpty := by
  unfold DirIndex.register
  refine NoEmpty.assign ?_ (ordered_ne_nil (by simp))
  cases previous with
  | none => exact h
  | some prev =>
    dsimp only
    split
    · exact h.withoutId
    · exact h

theorem NoEmpty.foldl_collect (rules : List RuleSet) (h : idx.NoEmpty) :
    (rules.foldl collect idx).NoEmpty := by
  induction rules generalizing idx with
  | nil => exact h
  | cons rs rest ih => exact ih (h.assign (by simp))

end DirIndex

/-! ## An index in step with rule sets -/

/-- The index is in step with rule sets of distinct ids: its directories are distinct, no bucket
is empty, and the bucket of each directory holds exactly the rule sets of that directory, sorted
by origin and id, with no id twice. -/
structure Indexes (rules : List RuleSet) (idx : DirIndex) : Prop where
  ids_nodup : (rules.map (·.id)).Nodup
  dirs_nodup : (idx.map (·.1)).Nodup
  noEmpty : idx.NoEmpty
  mem_bucket : ∀ dir rs, rs ∈ idx.bucket dir ↔ rs ∈ rules ∧ rs.baseDir = dir
  sorted : ∀ dir, (idx.bucket dir).Pairwise fun a b => bucketOrder a b = true
  bucket_ids_nodup : ∀ dir, ((idx.bucket dir).map (·.id)).Nodup

namespace Indexes

variable {rules : List RuleSet} {idx : DirIndex}

theorem nil : Indexes [] [] where
  ids_nodup := List.nodup_nil
  dirs_nodup := List.nodup_nil
  noEmpty := fun _ h => absurd h List.not_mem_nil
  mem_bucket := fun _ _ => by simp
  sorted := fun _ => List.Pairwise.nil
  bucket_ids_nodup := fun _ => List.nodup_nil

/-- The ids of what remains of a bucket, with `rs` added, are distinct. -/
theorem nodup_ids_filter_append (h : Indexes rules idx) (dir : PosixPath) (rs : RuleSet) :
    ((((idx.bucket dir).filter (·.id != rs.id)) ++ [rs]).map (·.id)).Nodup := by
  rw [List.map_append, List.nodup_append]
  refine ⟨(h.bucket_ids_nodup dir).sublist (List.filter_sublist.map _), by simp, ?_⟩
  intro a ha c hc hac
  obtain ⟨x, hx, rfl⟩ := List.mem_map.mp ha
  simp only [List.map_cons, List.map_nil, List.mem_singleton] at hc
  have hne := (List.mem_filter.mp hx).2
  simp [hac, hc] at hne

theorem nodup_ids_filter (h : Indexes rules idx) (dir : PosixPath) (id : String) :
    (((idx.bucket dir).filter (·.id != id)).map (·.id)).Nodup :=
  (h.bucket_ids_nodup dir).sublist (List.filter_sublist.map _)

/-- A rule set of the id being registered lies in the bucket of the rule set it replaces. -/
theorem baseDir_of_id_eq (h : Indexes rules idx) {rs x : RuleSet} (hx : x ∈ rules)
    (hid : x.id = rs.id) : (rules.find? (·.id == rs.id)).any (·.baseDir == x.baseDir) = true := by
  rw [← hid, find?_id_eq h.ids_nodup hx]
  simp

/-- Registering keeps the index in step. -/
theorem register (h : Indexes rules idx) (rs : RuleSet) :
    Indexes (upsert rules rs) (idx.register (rules.find? (·.id == rs.id)) rs) where
  ids_nodup := nodup_ids_upsert h.ids_nodup rs
  dirs_nodup := DirIndex.nodup_dirs_register h.dirs_nodup
  noEmpty := h.noEmpty.register
  mem_bucket dir x := by
    rw [DirIndex.bucket_register, mem_upsert_iff]
    split
    · rename_i hd
      subst hd
      simp only [mem_ordered, List.mem_append, List.mem_filter, h.mem_bucket, List.mem_singleton,
        bne_iff_ne, ne_eq]
      constructor
      · rintro (⟨⟨hx, hdir⟩, hid⟩ | rfl)
        · exact ⟨Or.inl ⟨hx, hid⟩, hdir⟩
        · exact ⟨Or.inr rfl, rfl⟩
      · rintro ⟨⟨hx, hid⟩ | rfl, hdir⟩
        · exact Or.inl ⟨⟨hx, hdir⟩, hid⟩
        · exact Or.inr rfl
    · rename_i hd
      split
      · simp only [mem_ordered, List.mem_filter, h.mem_bucket, bne_iff_ne, ne_eq]
        constructor
        · rintro ⟨⟨hx, hdir⟩, hid⟩
          exact ⟨Or.inl ⟨hx, hid⟩, hdir⟩
        · rintro ⟨⟨hx, hid⟩ | rfl, hdir⟩
          · exact ⟨⟨hx, hdir⟩, hid⟩
          · exact absurd hdir.symm hd
      · rename_i hprev
        rw [h.mem_bucket]
        constructor
        · rintro ⟨hx, hdir⟩
          refine ⟨Or.inl ⟨hx, fun hid => hprev ?_⟩, hdir⟩
          rw [← hdir]
          exact h.baseDir_of_id_eq hx hid
        · rintro ⟨⟨hx, -⟩ | rfl, hdir⟩
          · exact ⟨hx, hdir⟩
          · exact absurd hdir.symm hd
  sorted dir := by
    rw [DirIndex.bucket_register]
    split
    · exact pairwise_ordered _
    · split
      · exact pairwise_ordered _
      · exact h.sorted dir
  bucket_ids_nodup dir := by
    rw [DirIndex.bucket_register]
    split
    · exact nodup_ids_ordered (h.nodup_ids_filter_append _ rs)
    · split
      · exact nodup_ids_ordered (h.nodup_ids_filter _ rs.id)
      · exact h.bucket_ids_nodup dir

/-- Removing the rule set of an id keeps the index in step. -/
theorem unregister (h : Indexes rules idx) {id : String} {prev : RuleSet}
    (hprev : rules.find? (·.id == id) = some prev) :
    Indexes (rules.filter (·.id != id)) (idx.unregister prev) := by
  have hmem := List.mem_of_find?_eq_some hprev
  have hid : prev.id = id := by simpa using List.find?_some hprev
  subst hid
  refine ⟨h.ids_nodup.sublist (List.filter_sublist.map _), DirIndex.nodup_dirs_withoutId h.dirs_nodup,
    h.noEmpty.withoutId, fun dir x => ?_, fun dir => ?_, fun dir => ?_⟩
  · rw [DirIndex.unregister, DirIndex.bucket_withoutId, List.mem_filter, bne_iff_ne, ne_eq]
    split
    · rename_i hd
      subst hd
      simp only [mem_ordered, List.mem_filter, h.mem_bucket, bne_iff_ne, ne_eq]
      constructor
      · rintro ⟨⟨hx, hdir⟩, hid⟩
        exact ⟨⟨hx, hid⟩, hdir⟩
      · rintro ⟨⟨hx, hid⟩, hdir⟩
        exact ⟨⟨hx, hdir⟩, hid⟩
    · rename_i hd
      rw [h.mem_bucket]
      constructor
      · rintro ⟨hx, hdir⟩
        refine ⟨⟨hx, fun hid => hd ?_⟩, hdir⟩
        rw [← hdir, eq_of_id_eq h.ids_nodup hx hmem hid]
      · rintro ⟨⟨hx, -⟩, hdir⟩
        exact ⟨hx, hdir⟩
  · rw [DirIndex.unregister, DirIndex.bucket_withoutId]
    split
    · exact pairwise_ordered _
    · exact h.sorted dir
  · rw [DirIndex.unregister, DirIndex.bucket_withoutId]
    split
    · exact nodup_ids_ordered (h.nodup_ids_filter _ prev.id)
    · exact h.bucket_ids_nodup dir

/-- Grouping rule sets of distinct ids gives an index in step with them. -/
theorem group (h : (rules.map (·.id)).Nodup) : Indexes rules (DirIndex.group rules) := by
  have hbucket : ∀ dir, (DirIndex.group rules).bucket dir = ordered (rules.filter (·.baseDir == dir)) := by
    intro dir
    rw [DirIndex.group, DirIndex.bucket_map_ordered, DirIndex.bucket_foldl_collect, DirIndex.bucket_nil,
      List.nil_append]
  refine ⟨h, ?_, ?_, fun dir x => ?_, fun dir => ?_, fun dir => ?_⟩
  · rw [DirIndex.group, List.map_map]
    exact DirIndex.nodup_dirs_foldl_collect rules [] List.nodup_nil
  · intro e he
    obtain ⟨e', he', rfl⟩ := List.mem_map.mp he
    exact ordered_ne_nil (DirIndex.NoEmpty.foldl_collect rules (fun _ h => absurd h List.not_mem_nil) e' he')
  · rw [hbucket, mem_ordered, List.mem_filter, beq_iff_eq]
  · rw [hbucket]
    exact pairwise_ordered _
  · rw [hbucket]
    exact nodup_ids_ordered (h.sublist (List.filter_sublist.map _))

end Indexes

end IgnoreRules
