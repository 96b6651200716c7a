import Mathlib
import IgnoreRules.Manager.Query
import IgnoreRules.Proofs.Incremental
import IgnoreRules.Proofs.Unreachable

/-!
# Walking a tree

`Manager.iterFiles` walks the tree below a directory (manager.py:172–194): in each directory it
keeps the subdirectories that are not ignored, lists the files that are not ignored, and goes down
into the kept subdirectories. Pruning loses nothing: an ignored directory gives its verdict to every
path below it, so a file inside one is ignored anyway. The walk therefore yields, each once, exactly
the files below the directory that are not ignored.

This holds on a tree as a file system holds it (absolute normalised paths, nothing below a file;
`FileTree.WellFormed`), from a manager whose cached verdicts are right for its rule sets, and as
long as no verdict the walk asks for fails to compute. Comparing a component can fail only with
case ignored, on a character whose uppercase form is longer than one character: with case
respected, or on names whose characters fold one to one, no verdict fails
(`Manager.verdict_ok_of_foldsSimply`).

The proof runs the walk's queries through the cache once and for all: each query on a manager
that differs from `m` only in a sound cache answers with the uncached verdict and leaves such a
manager (`Manager.Steady`), and the walk is built from queries by binds, `filterM` and `mapM`.

## Main statements

- `FileTree.mem_entryNames`, `FileTree.isDir_of_isUnder`: what a listing holds, and that the
  directories on the way to an entry of a well-formed tree are directories.
- `Manager.resolveAt_steady`, `Manager.run_resolveAt_eq_ok_iff`: a query through a sound cache
  gives the uncached verdict.
- `Manager.verdict_ok_of_foldsSimply`: when no verdict can fail.
- `Manager.filesFrom_exact`: the walk from a directory, by induction on its levels.
- `iterFiles_exact`: the walk yields each file below its start that is not ignored, once, and no
  other path.
-/

namespace IgnoreRules

/-! ## Listings of a well-formed tree -/

section Dedup

variable {α : Type} [BEq α] [LawfulBEq α]

theorem nodup_eraseDupsBy_loop :
    ∀ (l acc : List α), acc.Nodup → (List.eraseDupsBy.loop (· == ·) l acc).Nodup
  | [], acc, h => by simpa [List.eraseDupsBy.loop] using h
  | a :: l, acc, h => by
    rw [List.eraseDupsBy.loop]
    cases hany : acc.any (a == ·) with
    | true => exact nodup_eraseDupsBy_loop l acc h
    | false =>
      -- `a` is not kept yet, so keeping it keeps the list free of repeats
      have ha : a ∉ acc := fun hmem => by simpa using List.any_eq_false.mp hany a hmem
      exact nodup_eraseDupsBy_loop l (a :: acc) (List.nodup_cons.mpr ⟨ha, h⟩)

theorem nodup_eraseDups (l : List α) : l.eraseDups.Nodup :=
  nodup_eraseDupsBy_loop l [] List.nodup_nil

end Dedup

namespace FileTree

variable {t : FileTree} {dir x : PosixPath}

/-- A tree as a file system holds it: its paths are absolute and normalised, and nothing lies
below a file. -/
structure WellFormed (t : FileTree) : Prop where
  resolved : ∀ e ∈ t.nodes, e.1.Resolved
  not_below_file : ∀ e ∈ t.nodes, ∀ f ∈ t.nodes, (∃ b, f.2 = .file b) → e.1.isUnder f.1 = false

/-- The names a directory lists are the components, just below it, of the paths below it. -/
theorem mem_entryNames {n : String} :
    n ∈ t.entryNames dir ↔
      ∃ e ∈ t.nodes, e.1.isUnder dir = true ∧ e.1.parts[dir.parts.length]? = some n := by
  simp only [entryNames, sortNames, List.mem_mergeSort, List.mem_eraseDups, List.mem_filterMap]
  constructor
  · rintro ⟨⟨q, node⟩, he, hn⟩
    by_cases hq : q.isUnder dir = true
    · rw [if_pos hq] at hn
      exact ⟨(q, node), he, hq, hn⟩
    · rw [if_neg hq] at hn
      cases hn
  · rintro ⟨⟨q, node⟩, he, hq, hn⟩
    exact ⟨(q, node), he, by rw [if_pos hq]; exact hn⟩

theorem nodup_entryNames : (t.entryNames dir).Nodup :=
  (List.mergeSort_perm _ _).nodup_iff.mpr (nodup_eraseDups _)

theorem nodup_subdirectories : (t.subdirectories dir).Nodup :=
  nodup_entryNames.filter _

theorem nodup_files : (t.files dir).Nodup :=
  nodup_entryNames.filter _

theorem mem_files {n : String} :
    n ∈ t.files dir ↔ n ∈ t.entryNames dir ∧ t.isFile (dir.child n) = true :=
  List.mem_filter

theorem mem_subdirectories {n : String} :
    n ∈ t.subdirectories dir ↔ n ∈ t.entryNames dir ∧ t.isDir (dir.child n) = true :=
  List.mem_filter

theorem le_foldl_depth :
    ∀ (l : List (PosixPath × Node)) (init : Nat),
      init ≤ l.foldl (fun h (q, _) => max h q.depth) init ∧
        ∀ e ∈ l, e.1.depth ≤ l.foldl (fun h (q, _) => max h q.depth) init
  | [], init => ⟨le_refl _, by simp⟩
  | (q, n) :: l, init => by
    obtain ⟨hinit, hle⟩ := le_foldl_depth l (max init q.depth)
    simp only [List.foldl_cons]
    refine ⟨le_trans (le_max_left _ _) hinit, fun e he => ?_⟩
    rcases List.mem_cons.mp he with rfl | he
    · exact le_trans (le_max_right _ _) hinit
    · exact hle e he

/-- No entry is deeper than the tree's height. -/
theorem depth_le_height {e : PosixPath × Node} (he : e ∈ t.nodes) : e.1.depth ≤ t.height :=
  (le_foldl_depth t.nodes 0).2 e he

/-- A file is listed with its bytes. -/
theorem mem_nodes_of_isFile (h : t.isFile x = true) : ∃ b, (x, Node.file b) ∈ t.nodes := by
  unfold isFile find? at h
  cases hl : t.nodes.lookup x with
  | none =>
    rw [hl] at h
    simp only at h
    split at h <;> simp_all
  | some n =>
    rw [hl] at h
    cases n with
    | file b =>
      obtain ⟨l₁, l₂, hnodes, -⟩ := List.lookup_eq_some_iff.mp hl
      exact ⟨b, hnodes ▸ List.mem_append_right _ List.mem_cons_self⟩
    | directory => simp at h

/-- In a well-formed tree, a path with an entry below it is a directory. -/
theorem isDir_of_isUnder (hwf : t.WellFormed) {e : PosixPath × Node} (he : e ∈ t.nodes)
    (hx : e.1.isUnder x = true) : t.isDir x = true := by
  have hany : t.nodes.any (·.1.isUnder x) = true := List.any_eq_true.mpr ⟨e, he, hx⟩
  unfold isDir find?
  cases hl : t.nodes.lookup x with
  | none => simp [hany]
  | some n =>
    cases n with
    | directory => rfl
    | file b =>
      -- an entry below a file is what a well-formed tree excludes
      have hfile : t.isFile x = true := by simp [isFile, find?, hl]
      obtain ⟨b', hb'⟩ := mem_nodes_of_isFile hfile
      rw [hwf.not_below_file e he _ hb' ⟨b', rfl⟩] at hx
      cases hx

end FileTree

/-! ## Children of a directory -/

namespace PosixPath

variable {p x dir : PosixPath} {n : String}

theorem child_injective (dir : PosixPath) : Function.Injective dir.child := fun a b h => by
  simpa [child] using h

theorem child_isUnder (dir : PosixPath) (n : String) : (dir.child n).isUnder dir = true :=
  isUnder_iff.mpr ⟨rfl, by simp [child], List.prefix_append _ _⟩

theorem isUnder_of_isUnder_child (h : x.isUnder (dir.child n) = true) : x.isUnder dir = true :=
  isUnder_trans h (child_isUnder dir n)

/-- A path below a child of a directory names the child right below the directory. -/
theorem getElem?_of_isUnder_child (h : x.isUnder (dir.child n) = true) :
    x.parts[dir.parts.length]? = some n := by
  obtain ⟨-, -, ⟨rest, hrest⟩⟩ := isUnder_iff.mp h
  rw [← hrest]
  simp [child]

/-- A path below a directory is a child of it, or lies below one. -/
theorem eq_child_or_isUnder_child (h : x.isUnder dir = true) :
    ∃ n, x.parts[dir.parts.length]? = some n ∧ (x = dir.child n ∨ x.isUnder (dir.child n) = true) := by
  obtain ⟨hroot, hlen, hpre⟩ := isUnder_iff.mp h
  obtain ⟨n, hn⟩ : ∃ n, x.parts[dir.parts.length]? = some n :=
    ⟨x.parts[dir.parts.length], List.getElem?_eq_getElem hlen⟩
  -- the child is the path cut right after that component
  have htake : x.parts.take (dir.parts.length + 1) = dir.parts ++ [n] := by
    rw [List.take_add_one, hn, ← List.prefix_iff_eq_take.mp hpre]
    rfl
  refine ⟨n, hn, ?_⟩
  rcases Nat.lt_or_ge (dir.parts.length + 1) x.parts.length with hlt | hge
  · right
    refine isUnder_iff.mpr ⟨hroot, by simp [child]; omega, ?_⟩
    rw [child, ← htake]
    exact List.take_prefix _ _
  · left
    have hall : x.parts.take (dir.parts.length + 1) = x.parts := List.take_of_length_le hge
    cases x
    simp only [child, mk.injEq] at hroot ⊢
    exact ⟨hroot, hall.symm.trans htake⟩

/-- Cutting a resolved path keeps it resolved. -/
theorem Resolved.take (hp : p.Resolved) (k : Nat) : (⟨p.root, p.parts.take k⟩ : PosixPath).Resolved :=
  ⟨⟨hp.canonical.root_eq, fun c hc => hp.canonical.ne_empty c (List.mem_of_mem_take hc),
    fun c hc => hp.canonical.ne_dot c (List.mem_of_mem_take hc),
    fun c hc => hp.canonical.slash_not_mem c (List.mem_of_mem_take hc)⟩,
    hp.isAbsolute, fun h => hp.dotDot_not_mem (List.mem_of_mem_take h)⟩

/-- The child of a directory named after a resolved path below it is resolved. -/
theorem Resolved.child_of_isUnder (hx : x.Resolved) (h : x.isUnder dir = true)
    (hn : x.parts[dir.parts.length]? = some n) : (dir.child n).Resolved := by
  obtain ⟨hroot, -, hpre⟩ := isUnder_iff.mp h
  have hchild : dir.child n = ⟨x.root, x.parts.take (dir.parts.length + 1)⟩ := by
    rw [child, List.take_add_one, hn, ← List.prefix_iff_eq_take.mp hpre, hroot]
    rfl
  rw [hchild]
  exact hx.take _

end PosixPath

/-! ## Verdicts of a manager -/

/-- The components of a path relative to a directory are components of the path. -/
theorem PosixPath.mem_of_mem_relativeTo_getD {y B : PosixPath} {c : String}
    (h : c ∈ (y.relativeTo B).getD []) : c ∈ y.parts := by
  unfold PosixPath.relativeTo at h
  split at h
  · exact List.mem_of_mem_drop h
  · cases h

/-- The search for the last matching pattern fails only where a pattern fails. -/
theorem RuleSet.lastMatch_ok {rs : RuleSet} {x : PosixPath} {isDirectory ic : Bool}
    (h : ∀ pat ∈ rs.patterns, ∃ b,
      pat.matchParts ((x.relativeTo rs.baseDir).getD []) isDirectory ic = .ok b) :
    ∃ o, rs.lastMatch x isDirectory ic = .ok o := by
  rw [RuleSet.lastMatch, List.findM?_eq_findSomeM?]
  refine (findSomeM?_of_forall_ok (Q := fun _ => True) fun pat hpat => ?_).imp fun _ ho => ho.1
  obtain ⟨b, hb⟩ := h pat (List.mem_reverse.mp hpat)
  refine ⟨if b = true then some pat else none, ?_, fun _ _ => trivial⟩
  rw [hb]
  rfl

namespace Resolver

variable {ic : Bool} {A : List RuleSet}

theorem sweepSpec_ok {x : PosixPath} {isDirectory : Bool}
    (h : ∀ rs ∈ A, ∀ pat ∈ rs.patterns, ∃ b,
      pat.matchParts ((x.relativeTo rs.baseDir).getD []) isDirectory ic = .ok b) :
    ∃ v, sweepSpec ic A x isDirectory = .ok v := by
  obtain ⟨o, ho, -⟩ := findSomeM?_of_forall_ok (Q := fun _ => True)
    (l := (A.filter (x.isUnder ·.baseDir)).reverse) (f := fun rs => rs.lastMatch x isDirectory ic)
    fun rs hrs => by
      obtain ⟨o, ho⟩ := RuleSet.lastMatch_ok
        (h rs (List.mem_of_mem_filter (List.mem_reverse.mp hrs)))
      exact ⟨o, ho, fun _ _ => trivial⟩
  rw [sweepSpec, ho]
  exact ⟨_, rfl⟩

/-- The verdict of a path fails only where a pattern fails on the path or on one of its
directories. -/
theorem judge_ok {p : PosixPath} {isDirectory : Bool}
    (h : ∀ y, (y = p ∨ p.isUnder y = true) → ∀ rs ∈ A, ∀ pat ∈ rs.patterns, ∀ d, ∃ b,
      pat.matchParts ((y.relativeTo rs.baseDir).getD []) d ic = .ok b) :
    ∃ v, judge ic p isDirectory A = .ok v := by
  cases A with
  | nil => exact ⟨_, rfl⟩
  | cons top rest =>
    -- every directory on the way is swept without failing
    obtain ⟨o, ho, -⟩ := findSomeM?_of_forall_ok (Q := fun _ => True)
      (l := p.parents.reverse.filter (·.isUnder top.baseDir)) (f := blocks ic (top :: rest))
      fun y hy => by
        have hpy : p.isUnder y = true :=
          PosixPath.mem_parents.mp (List.mem_reverse.mp (List.mem_of_mem_filter hy))
        obtain ⟨v, hv⟩ := sweepSpec_ok fun rs hrs pat hpat => h y (.inr hpy) rs hrs pat hpat true
        exact ⟨_, blocks_of_sweepSpec hv, fun _ _ => trivial⟩
    rw [judge_cons, ho]
    cases o with
    | some v => exact ⟨v, rfl⟩
    | none => exact sweepSpec_ok fun rs hrs pat hpat => h p (.inl rfl) rs hrs pat hpat isDirectory

end Resolver

namespace Manager

/-- The verdict of the manager's rule sets for a path, computed without the cache. -/
def verdict (m : Manager) (p : PosixPath) (isDirectory : Bool) : Except MatchError Verdict :=
  Resolver.verdictOf m.config.ignoreCase.holds (PosixPath.normalize p.toString) isDirectory
    (m.registry.applicable (PosixPath.normalize p.toString))

/-- An ignored directory gives its verdict to every path below it. -/
theorem verdict_below_ignored (m : Manager) {dir x : PosixPath} (hdir : dir.Resolved)
    (hx : x.Resolved) (h : x.isUnder dir = true) {v : Verdict} (hv : m.verdict dir true = .ok v)
    (hign : v.ignored = true) (isDirectory : Bool) : m.verdict x isDirectory = .ok v := by
  rw [verdict, hdir.normalize_toString] at hv
  rw [verdict, hx.normalize_toString]
  exact Resolver.verdictOf_below_ignored m.registry.indexes.ids_nodup h hv hign isDirectory

/-- With case respected, no verdict of a manager whose patterns are as parsed fails; with case
ignored, none fails on a path whose characters fold one to one. -/
theorem verdict_ok_of_foldsSimply (m : Manager)
    (hjoined : ∀ rs ∈ m.registry.ruleSets, ∀ pat ∈ rs.patterns, ∀ s ∈ pat.segments,
      LiteralsJoined s.tokens)
    {p : PosixPath}
    (hfold : m.config.ignoreCase.holds = true →
      ∀ c ∈ (PosixPath.normalize p.toString).parts, ∀ ch ∈ c.toList, Text.foldsSimply ch = true)
    (isDirectory : Bool) : ∃ v, m.verdict p isDirectory = .ok v := by
  have hids : m.registry.IdsDistinct := m.registry.indexes.ids_nodup
  rw [verdict, Resolver.verdictOf_eq_judge (Registry.pairwise_applicable hids)
      (fun rs hrs => (Registry.mem_applicable.mp hrs).2)]
  refine Resolver.judge_ok fun y hy rs hrs pat hpat d => ?_
  -- the components compared are components of `p`
  have hsub : y.parts ⊆ (PosixPath.normalize p.toString).parts := by
    rcases hy with rfl | hpy
    · exact List.Subset.refl _
    · exact (PosixPath.isUnder_iff.mp hpy).2.2.subset
  exact pat.matchParts_ok_of_foldsSimply
    (hjoined rs (Registry.mem_applicable.mp hrs).1 pat hpat)
    (fun hic part hpart => hfold hic part (hsub (PosixPath.mem_of_mem_relativeTo_getD hpart))) d

end Manager

/-! ## Queries through a sound cache -/

namespace Manager

variable {m : Manager} {α β : Type}

/-- `m'` is `m` with a cache whose every verdict is right for the rule sets of `m`. -/
def WithSoundCache (m m' : Manager) : Prop :=
  ∃ c, m' = { m with cache := c } ∧ CacheSound m.resolver.ignoreCase (· ∈ m.registry.ruleSets) c

/-- Run on `m` with any sound cache, the program answers `t` and leaves `m` with a sound cache. -/
def Steady (m : Manager) (prog : Engine α) (t : Except EngineError α) : Prop :=
  ∀ m', m.WithSoundCache m' → (prog.run.run m').1 = t ∧ m.WithSoundCache (prog.run.run m').2

theorem withSoundCache_self
    (h : CacheSound m.resolver.ignoreCase (· ∈ m.registry.ruleSets) m.cache) :
    m.WithSoundCache m :=
  ⟨m.cache, rfl, h⟩

theorem run_bind_engine (x : Engine α) (f : α → Engine β) (m : Manager) :
    (x >>= f).run.run m = match x.run.run m with
      | (.ok a, m') => (f a).run.run m'
      | (.error e, m') => (.error e, m') := by
  simp only [ExceptT.run_bind, StateT.run_bind]
  rcases x.run.run m with ⟨_ | a, m'⟩ <;> rfl

namespace Steady

theorem pure (a : α) : Steady m (Pure.pure a) (.ok a) :=
  fun _ h => ⟨rfl, h⟩

theorem bind {x : Engine α} {f : α → Engine β} {a : α} {t : Except EngineError β}
    (hx : Steady m x (.ok a)) (hf : Steady m (f a) t) : Steady m (x >>= f) t := by
  intro m' h
  obtain ⟨hres, hstate⟩ := hx m' h
  rw [run_bind_engine]
  rcases hrun : x.run.run m' with ⟨r, m''⟩
  rw [hrun] at hres hstate
  subst hres
  exact hf m'' hstate

theorem filterAuxM {f : α → Engine Bool} {b : α → Bool} :
    ∀ (l acc : List α), (∀ a ∈ l, Steady m (f a) (.ok (b a))) →
      Steady m (List.filterAuxM f l acc) (.ok ((l.filter b).reverse ++ acc))
  | [], acc, _ => by simpa [List.filterAuxM] using pure acc
  | a :: l, acc, h => by
    rw [List.filterAuxM]
    refine (h a List.mem_cons_self).bind ?_
    have hrest := filterAuxM l (cond (b a) (a :: acc) acc)
      fun x hx => h x (List.mem_cons_of_mem a hx)
    cases hb : b a with
    | true => simpa [List.filter_cons, hb] using hrest
    | false => simpa [List.filter_cons, hb] using hrest

/-- A filter whose every test answers through a sound cache keeps what the answers keep. -/
theorem filterM {f : α → Engine Bool} {b : α → Bool} {l : List α}
    (h : ∀ a ∈ l, Steady m (f a) (.ok (b a))) : Steady m (l.filterM f) (.ok (l.filter b)) := by
  rw [List.filterM]
  refine (filterAuxM l [] h).bind ?_
  simpa using pure (l.filter b)

/-- A map whose every step answers through a sound cache answers with the list of answers. -/
theorem mapM {f : α → Engine β} {R : α → β → Prop} :
    ∀ {l : List α}, (∀ a ∈ l, ∃ y, Steady m (f a) (.ok y) ∧ R a y) →
      ∃ ys, Steady m (l.mapM f) (.ok ys) ∧ List.Forall₂ R l ys
  | [], _ => ⟨[], by simpa using pure ([] : List β), .nil⟩
  | a :: l, h => by
    obtain ⟨y, hy, hR⟩ := h a List.mem_cons_self
    obtain ⟨ys, hys, hRs⟩ := mapM fun b hb => h b (List.mem_cons_of_mem a hb)
    refine ⟨y :: ys, ?_, .cons hR hRs⟩
    rw [List.mapM_cons]
    exact hy.bind (hys.bind (pure _))

end Steady

theorem run_resolveAt_eq (m : Manager) (p : PosixPath) (isDirectory : Bool) :
    (resolveAt p isDirectory).run.run m =
      (match ((m.resolver.resolve p.toString isDirectory true).run.run m.cache).1 with
        | .ok v => .ok v
        | .error e => .error (.mismatch e),
       { m with cache := ((m.resolver.resolve p.toString isDirectory true).run.run m.cache).2 }) := by
  rw [resolveAt, run_bind_get, onCache, run_bind_get]
  rcases (m.resolver.resolve p.toString isDirectory true).run.run m.cache with ⟨_ | _, c⟩ <;> rfl

/-- The manager's resolver, run through a sound cache, gives the uncached verdict and keeps the
cache sound. -/
theorem resolve_faithful (m : Manager) (p : PosixPath) (isDirectory : Bool) :
    Faithful (CacheSound m.resolver.ignoreCase (· ∈ m.registry.ruleSets))
      (m.resolver.resolve p.toString isDirectory true) (m.verdict p isDirectory) := by
  -- the registered rule sets are told apart by id alone, so also by id and version
  have hU : VersionsUnique (· ∈ m.registry.ruleSets) := fun _ _ ha hb hid _ =>
    List.inj_on_of_nodup_map m.registry.indexes.ids_nodup ha hb hid
  exact Resolver.resolve_faithful hU (by exact m.registry.indexes.ids_nodup) (fun _ h => h)
    p.toString isDirectory

/-- A query through a sound cache answers with the uncached verdict and keeps the cache sound. -/
theorem resolveAt_steady {p : PosixPath} {isDirectory : Bool} {v : Verdict}
    (hv : m.verdict p isDirectory = .ok v) : Steady m (resolveAt p isDirectory) (.ok v) := by
  rintro _ ⟨c, rfl, hc⟩
  obtain ⟨hres, hsound⟩ := m.resolve_faithful p isDirectory c hc
  rw [run_resolveAt_eq]
  refine ⟨?_, ⟨_, rfl, hsound⟩⟩
  show (match ((m.resolver.resolve p.toString isDirectory true).run.run c).1 with
    | .ok v => Except.ok v
    | .error e => .error (EngineError.mismatch e)) = .ok v
  rw [hres, hv]

/-- Through a sound cache, a query answers exactly with the uncached verdict. -/
theorem run_resolveAt_eq_ok_iff
    (hsound : CacheSound m.resolver.ignoreCase (· ∈ m.registry.ruleSets) m.cache)
    (p : PosixPath) (isDirectory : Bool) {v : Verdict} :
    ((resolveAt p isDirectory).run.run m).1 = .ok v ↔ m.verdict p isDirectory = .ok v := by
  rw [run_resolveAt_eq, (m.resolve_faithful p isDirectory m.cache hsound).1]
  cases m.verdict p isDirectory with
  | ok w => simp
  | error e => simp

end Manager

/-! ## The walk -/

/-- Lists that each hold, once, the elements related to their own index, for distinct indices
related to disjoint sets of elements, join into a list that holds each related element once. -/
theorem flatten_of_forall₂ {α β : Type} {P : α → β → Prop} :
    ∀ {l : List α} {ls : List (List β)},
      List.Forall₂ (fun a la => la.Nodup ∧ ∀ x, x ∈ la ↔ P a x) l ls → l.Nodup →
      (∀ a ∈ l, ∀ b ∈ l, ∀ x, P a x → P b x → a = b) →
      ls.flatten.Nodup ∧ ∀ x, x ∈ ls.flatten ↔ ∃ a ∈ l, P a x
  | [], [], .nil, _, _ => ⟨List.nodup_nil, by simp⟩
  | a :: l, la :: ls, .cons ⟨hnd, hmem⟩ hrest, hl, hdisj => by
    obtain ⟨ha, hl'⟩ := List.nodup_cons.mp hl
    obtain ⟨hnd', hmem'⟩ := flatten_of_forall₂ hrest hl' fun a' ha' b hb =>
      hdisj a' (List.mem_cons_of_mem a ha') b (List.mem_cons_of_mem a hb)
    refine ⟨?_, fun x => ?_⟩
    · rw [List.flatten_cons, List.nodup_append]
      refine ⟨hnd, hnd', fun x hx y hy hxy => ?_⟩
      subst hxy
      -- an element of both would be related to `a` and to a later index
      obtain ⟨b, hb, hPb⟩ := (hmem' x).mp hy
      have hab := hdisj a List.mem_cons_self b (List.mem_cons_of_mem a hb) x ((hmem x).mp hx) hPb
      subst hab
      exact ha hb
    · simp only [List.flatten_cons, List.mem_append, hmem, hmem', List.mem_cons, exists_eq_or_imp]

namespace Manager

variable {m : Manager}

/-- Whether the manager's rule sets leave a path not ignored; a verdict that fails keeps
nothing. -/
def keeps (m : Manager) (p : PosixPath) (isDirectory : Bool) : Bool :=
  match m.verdict p isDirectory with
  | .ok v => !v.ignored
  | .error _ => false

theorem keeps_eq_true_iff {p : PosixPath} {isDirectory : Bool} :
    m.keeps p isDirectory = true ↔ ∃ v, m.verdict p isDirectory = .ok v ∧ v.ignored = false := by
  unfold keeps
  split <;> simp_all

/-- The walk's test of an entry answers whether the rule sets keep it. -/
theorem keepTest_steady {p : PosixPath} {isDirectory : Bool}
    (h : ∃ v, m.verdict p isDirectory = .ok v) :
    Steady m (resolveAt p isDirectory >>= fun v => pure !v.ignored)
      (.ok (m.keeps p isDirectory)) := by
  obtain ⟨v, hv⟩ := h
  have hkeeps : m.keeps p isDirectory = !v.ignored := by rw [keeps, hv]
  rw [hkeeps]
  exact (resolveAt_steady hv).bind (Steady.pure _)

variable {dir : PosixPath}

/-- Pruning loses nothing: a file below a directory that the rule sets keep is a kept file of the
directory, or lies below a kept subdirectory of it. -/
theorem kept_file_reached (hwf : m.disk.WellFormed)
    (hok : ∀ x, x.isUnder dir = true → m.disk.isDir x = true → ∃ v, m.verdict x true = .ok v)
    {x : PosixPath} (hfile : m.disk.isFile x = true) (hx : x.isUnder dir = true)
    (hkeep : m.keeps x false = true) :
    ∃ n, (x = dir.child n ∧ n ∈ (m.disk.files dir).filter fun f => m.keeps (dir.child f) false) ∨
      (x.isUnder (dir.child n) = true ∧
        n ∈ (m.disk.subdirectories dir).filter fun d => m.keeps (dir.child d) true) := by
  obtain ⟨b, hnode⟩ := FileTree.mem_nodes_of_isFile hfile
  obtain ⟨n, hn, hcases⟩ := PosixPath.eq_child_or_isUnder_child hx
  have hname : n ∈ m.disk.entryNames dir := FileTree.mem_entryNames.mpr ⟨_, hnode, hx, hn⟩
  rcases hcases with hchild | hbelow
  · -- a file of the directory itself
    subst hchild
    exact ⟨n, .inl ⟨rfl, List.mem_filter.mpr ⟨FileTree.mem_files.mpr ⟨hname, hfile⟩, hkeep⟩⟩⟩
  · -- the subdirectory on the way is kept, or the file would be ignored with it
    have hsub : m.disk.isDir (dir.child n) = true := FileTree.isDir_of_isUnder hwf hnode hbelow
    obtain ⟨w, hw⟩ := hok _ (PosixPath.child_isUnder dir n) hsub
    obtain ⟨v, hv, hign⟩ := keeps_eq_true_iff.mp hkeep
    have hkeepdir : m.keeps (dir.child n) true = true := by
      refine keeps_eq_true_iff.mpr ⟨w, hw, ?_⟩
      cases hwi : w.ignored with
      | false => rfl
      | true =>
        have hx' := m.verdict_below_ignored ((hwf.resolved _ hnode).child_of_isUnder hx hn)
          (hwf.resolved _ hnode) hbelow hw hwi false
        rw [hv] at hx'
        cases hx'
        rw [hign] at hwi
        cases hwi
    exact ⟨n, .inr ⟨hbelow, List.mem_filter.mpr
      ⟨FileTree.mem_subdirectories.mpr ⟨hname, hsub⟩, hkeepdir⟩⟩⟩

/-- The walk from a directory, given levels enough for the entries below it, yields each file
below it that the rule sets keep, once, and nothing else: run on the manager with any sound cache
it answers so and leaves the cache sound. -/
theorem filesFrom_exact (hwf : m.disk.WellFormed) :
    ∀ (fuel : Nat) (dir : PosixPath), dir.Resolved →
      (∀ e ∈ m.disk.nodes, e.1.isUnder dir = true → e.1.parts.length ≤ dir.parts.length + fuel) →
      (∀ x, x.isUnder dir = true → (m.disk.isDir x = true → ∃ v, m.verdict x true = .ok v) ∧
        (m.disk.isFile x = true → ∃ v, m.verdict x false = .ok v)) →
      ∃ L, Steady m (filesFrom m.disk fuel dir) (.ok L) ∧ L.Nodup ∧
        ∀ x, x ∈ L ↔ m.disk.isFile x = true ∧ x.isUnder dir = true ∧ m.keeps x false = true
  | 0, dir, _, hfuel, _ => by
    refine ⟨[], Steady.pure _, List.nodup_nil, fun x => ?_⟩
    -- no file lies below the directory
    simp only [List.not_mem_nil, false_iff, not_and]
    intro hfile hx
    obtain ⟨b, hnode⟩ := FileTree.mem_nodes_of_isFile hfile
    have hle : x.parts.length ≤ dir.parts.length + 0 := hfuel _ hnode hx
    have hlt := (PosixPath.isUnder_iff.mp hx).2.1
    omega
  | fuel + 1, dir, hdir, hfuel, hok => by
    -- the walks of the kept subdirectories, one level less deep
    have hchild : ∀ d ∈ (m.disk.subdirectories dir).filter (fun d => m.keeps (dir.child d) true),
        ∃ L, Steady m (filesFrom m.disk fuel (dir.child d)) (.ok L) ∧ (L.Nodup ∧
          ∀ x, x ∈ L ↔ m.disk.isFile x = true ∧ x.isUnder (dir.child d) = true ∧
            m.keeps x false = true) := by
      intro d hd
      obtain ⟨e, he, heu, hen⟩ := FileTree.mem_entryNames.mp
        (FileTree.mem_subdirectories.mp (List.mem_of_mem_filter hd)).1
      have hfuel' : ∀ e' ∈ m.disk.nodes, e'.1.isUnder (dir.child d) = true →
          e'.1.parts.length ≤ (dir.child d).parts.length + fuel := fun e' he' hu => by
        have := hfuel e' he' (PosixPath.isUnder_of_isUnder_child hu)
        simp only [PosixPath.child, List.length_append, List.length_singleton]
        omega
      obtain ⟨L, hL, hnd, hmem⟩ := filesFrom_exact hwf fuel (dir.child d)
        ((hwf.resolved e he).child_of_isUnder heu hen) hfuel'
        fun x hx => hok x (PosixPath.isUnder_of_isUnder_child hx)
      exact ⟨L, hL, hnd, hmem⟩
    obtain ⟨Ls, hdeeper, hRs⟩ := Steady.mapM hchild
    have hkept := Steady.filterM (m := m) (l := m.disk.subdirectories dir)
      (b := fun d => m.keeps (dir.child d) true) fun d hd =>
        keepTest_steady ((hok _ (PosixPath.child_isUnder dir d)).1 (FileTree.mem_subdirectories.mp hd).2)
    have hfiles := Steady.filterM (m := m) (l := m.disk.files dir)
      (b := fun f => m.keeps (dir.child f) false) fun f hf =>
        keepTest_steady ((hok _ (PosixPath.child_isUnder dir f)).2 (FileTree.mem_files.mp hf).2)
    -- distinct subdirectories hold disjoint sets of files
    obtain ⟨hndeep, hmemdeep⟩ := flatten_of_forall₂ hRs (FileTree.nodup_subdirectories.filter _)
      fun a _ b _ x ha hb => Option.some.inj
        ((PosixPath.getElem?_of_isUnder_child ha.2.1).symm.trans
          (PosixPath.getElem?_of_isUnder_child hb.2.1))
    rw [filesFrom]
    refine ⟨_, hkept.bind (hfiles.bind (hdeeper.bind (Steady.pure _))), ?_, fun x => ?_⟩
    · -- the files of the directory lie one level below it, the deeper ones further down
      rw [List.nodup_append]
      refine ⟨(FileTree.nodup_files.filter _).map (PosixPath.child_injective dir), hndeep,
        fun x hx y hy hxy => ?_⟩
      subst hxy
      obtain ⟨f, -, rfl⟩ := List.mem_map.mp hx
      obtain ⟨d, -, -, hbelow, -⟩ := (hmemdeep _).mp hy
      have hlen := (PosixPath.isUnder_iff.mp hbelow).2.1
      simp [PosixPath.child] at hlen
    · constructor
      · intro hx
        rcases List.mem_append.mp hx with hx | hx
        · obtain ⟨f, hf, rfl⟩ := List.mem_map.mp hx
          exact ⟨(FileTree.mem_files.mp (List.mem_of_mem_filter hf)).2,
            PosixPath.child_isUnder dir f, (List.mem_filter.mp hf).2⟩
        · obtain ⟨d, -, hfile, hbelow, hkeep⟩ := (hmemdeep x).mp hx
          exact ⟨hfile, PosixPath.isUnder_of_isUnder_child hbelow, hkeep⟩
      · rintro ⟨hfile, hx, hkeep⟩
        obtain ⟨n, ⟨rfl, hn⟩ | ⟨hbelow, hn⟩⟩ :=
          kept_file_reached hwf (fun y hy => (hok y hy).1) hfile hx hkeep
        · exact List.mem_append_left _ (List.mem_map.mpr ⟨n, hn, rfl⟩)
        · exact List.mem_append_right _ ((hmemdeep x).mpr ⟨n, hn, hfile, hbelow, hkeep⟩)

end Manager

/-- On a well-formed tree, from a manager with a normalised absolute root and a cache whose
verdicts are right, the walk from a directory (the root by default) yields, each once, exactly
the files below the directory that the manager's queries find not ignored, as long as its query
about no directory or file below the directory fails. -/
theorem iterFiles_exact {m : Manager}
    (hsound : CacheSound m.resolver.ignoreCase (· ∈ m.registry.ruleSets) m.cache)
    (hwf : m.disk.WellFormed) (hroot : m.root.Resolved) (start : Option String)
    (hok : ∀ x, x.isUnder ((start.map m.absolute).getD m.root) = true →
      (m.disk.isDir x = true → ∃ v, ((Manager.resolveAt x true).run.run m).1 = .ok v) ∧
      (m.disk.isFile x = true → ∃ v, ((Manager.resolveAt x false).run.run m).1 = .ok v)) :
    ∃ L, ((Manager.iterFiles start).run.run m).1 = .ok L ∧ L.Nodup ∧
      ∀ x, x ∈ L ↔ m.disk.isFile x = true ∧ x.isUnder ((start.map m.absolute).getD m.root) = true ∧
        ∃ v, ((Manager.resolveAt x false).run.run m).1 = .ok v ∧ v.ignored = false := by
  set dir := (start.map m.absolute).getD m.root
  have hdir : dir.Resolved := by
    cases start with
    | none => exact hroot
    | some s => exact PosixPath.resolved_resolveFrom hroot.canonical hroot.isAbsolute s
  -- the walk has a level for every component of the deepest entry
  have hfuel : ∀ e ∈ m.disk.nodes, e.1.isUnder dir = true →
      e.1.parts.length ≤ dir.parts.length + (m.disk.height + 1) := fun e he _ => by
    have := FileTree.depth_le_height he
    simp only [PosixPath.depth] at this
    omega
  -- the queries answer with the uncached verdicts
  have hquery := Manager.run_resolveAt_eq_ok_iff hsound
  have hverdict : ∀ x, x.isUnder dir = true →
      (m.disk.isDir x = true → ∃ v, m.verdict x true = .ok v) ∧
      (m.disk.isFile x = true → ∃ v, m.verdict x false = .ok v) := fun x hx =>
    ⟨fun hd => ((hok x hx).1 hd).imp fun _ hv => (hquery x true).mp hv,
      fun hf => ((hok x hx).2 hf).imp fun _ hv => (hquery x false).mp hv⟩
  obtain ⟨L, hL, hnd, hmem⟩ := Manager.filesFrom_exact hwf _ dir hdir hfuel hverdict
  obtain ⟨hres, -⟩ := hL m (Manager.withSoundCache_self hsound)
  refine ⟨L, ?_, hnd, fun x => ?_⟩
  · rw [Manager.iterFiles, Manager.run_bind_get]
    exact hres
  · simp only [hmem x, Manager.keeps_eq_true_iff, hquery]

/-- The tree `/repo/a.txt`, `/repo/build/x.txt` under the rule `build/`, walked from the root. -/
theorem iterFiles_exact_repo :
    let build : Pattern :=
      { raw := "build/", segments := [.glob "build" [.lit "build"]], anchored := false,
        directoryOnly := true, negated := false, sourceFile := none, lineNumber := 1 }
    let R : RuleSet :=
      { id := "/repo/.gitignore", baseDir := ⟨"/", ["repo"]⟩, patterns := [build], version := 1,
        origin := Origin.found, errors := [], digest := "" }
    let m : Manager :=
      { root := ⟨"/", ["repo"]⟩, config := Config.standard,
        source := ⟨[".gitignore"], .memory [] []⟩,
        disk := ⟨[(⟨"/", ["repo", "a.txt"]⟩, .file []), (⟨"/", ["repo", "build"]⟩, .directory),
          (⟨"/", ["repo", "build", "x.txt"]⟩, .file [])]⟩,
        registry := (Registry.empty.register R).2, cache := VerdictCache.empty 10,
        outerFiles := [], listening := true, nextVersion := 2 }
    CacheSound m.resolver.ignoreCase (· ∈ m.registry.ruleSets) m.cache ∧ m.disk.WellFormed ∧
      m.root.Resolved ∧
      (∀ x, x.isUnder m.root = true →
        (m.disk.isDir x = true → ∃ v, ((Manager.resolveAt x true).run.run m).1 = .ok v) ∧
        (m.disk.isFile x = true → ∃ v, ((Manager.resolveAt x false).run.run m).1 = .ok v)) ∧
      ∃ L, ((Manager.iterFiles none).run.run m).1 = .ok L ∧ L.Nodup ∧
        ∀ x, x ∈ L ↔ m.disk.isFile x = true ∧ x.isUnder m.root = true ∧
          ∃ v, ((Manager.resolveAt x false).run.run m).1 = .ok v ∧ v.ignored = false := by
  intro build R m
  have hsound : CacheSound m.resolver.ignoreCase (· ∈ m.registry.ruleSets) m.cache :=
    CacheSound.empty 10
  have hresolved : ∀ parts : List String, (∀ c ∈ parts, c ≠ "" ∧ c ≠ "." ∧ c ≠ ".." ∧
      '/' ∉ c.toList) → (⟨"/", parts⟩ : PosixPath).Resolved := fun parts h =>
    ⟨⟨.inr (.inl rfl), fun c hc => (h c hc).1, fun c hc => (h c hc).2.1,
      fun c hc => (h c hc).2.2.2⟩, rfl, fun hc => (h ".." hc).2.2.1 rfl⟩
  have hwf : m.disk.WellFormed := by
    refine ⟨fun e he => ?_, fun e he f hf hfile => ?_⟩
    · simp only [m, List.mem_cons, List.not_mem_nil, or_false] at he
      rcases he with rfl | rfl | rfl <;> exact hresolved _ (by decide)
    · simp only [m, List.mem_cons, List.not_mem_nil, or_false] at he hf
      rcases hf with rfl | rfl | rfl
      · rcases he with rfl | rfl | rfl <;> decide
      · obtain ⟨b, hb⟩ := hfile
        cases hb
      · rcases he with rfl | rfl | rfl <;> decide
  have hroot : m.root.Resolved := hresolved _ (by decide)
  have hjoined : ∀ rs ∈ m.registry.ruleSets, ∀ pat ∈ rs.patterns, ∀ s ∈ pat.segments,
      LiteralsJoined s.tokens := by
    simp [m, R, build, Registry.register, Registry.empty, Registry.upsert, LiteralsJoined, Segment.tokens]
  have hcase : m.config.ignoreCase.holds = false := rfl
  -- with case respected no verdict fails, so no query does
  have hquery : ∀ x isDirectory, ∃ v, ((Manager.resolveAt x isDirectory).run.run m).1 = .ok v :=
    fun x isDirectory =>
      (m.verdict_ok_of_foldsSimply hjoined (fun h => absurd h (by rw [hcase]; decide))
        isDirectory).imp fun _ hv => (Manager.run_resolveAt_eq_ok_iff hsound x isDirectory).mpr hv
  have hok : ∀ x, x.isUnder m.root = true →
      (m.disk.isDir x = true → ∃ v, ((Manager.resolveAt x true).run.run m).1 = .ok v) ∧
      (m.disk.isFile x = true → ∃ v, ((Manager.resolveAt x false).run.run m).1 = .ok v) :=
    fun x _ => ⟨fun _ => hquery x true, fun _ => hquery x false⟩
  exact ⟨hsound, hwf, hroot, hok, iterFiles_exact hsound hwf hroot none hok⟩

end IgnoreRules
