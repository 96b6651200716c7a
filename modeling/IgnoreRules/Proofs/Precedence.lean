import IgnoreRules.Resolve
import IgnoreRules.Proofs.Registry

/-!
# Precedence of rule sets

The resolver's verdict for a path combines three rules (resolver.py:74–135, rule_set.py:87–106):
inside a rule set the last matching pattern wins, a deeper rule set overrides a shallower one (and
at equal depth the later one in origin and id order wins), and an ignored directory decides for
everything below it. This module states the verdict directly from these rules and proves that the
resolver, run without the cache, gives exactly that verdict on every reachable registry.

- `Resolver.firstIgnored`, `Resolver.verdictOf`: the resolver's walk, without the cache; running
  `Resolver.resolve` with the cache off is `verdictOf` and leaves the cache alone
  (`run_resolve_uncached`).
- `RuleSet.lastMatch`, `Resolver.sweepSpec`, `Resolver.judge`, `Resolver.reference`: the verdict
  from the precedence rules, with the rule sets that apply listed as the registered ones above the
  path in the order of `Registry.all`.
- `resolve_uncached_eq_reference`: the two agree.
- `reference_below_ignored`: an ignored directory gives its verdict to every path below it.
-/

namespace IgnoreRules

/-! ## Running resolutions -/

section Run

variable {α β : Type}

theorem run_bind (m : Resolution α) (f : α → Resolution β) (c : VerdictCache) :
    (m >>= f).run.run c = match m.run.run c with
      | (.ok a, c') => (f a).run.run c'
      | (.error e, c') => (.error e, c') := by
  simp only [ExceptT.run_bind, StateT.run_bind]
  rcases m.run.run c with ⟨_ | a, c'⟩ <;> rfl

theorem run_pure (a : α) (c : VerdictCache) : (pure a : Resolution α).run.run c = (.ok a, c) :=
  rfl

theorem run_liftMatch (x : Except MatchError α) (c : VerdictCache) :
    (Resolver.liftMatch x).run.run c = (x, c) := by
  cases x <;> rfl

end Run

namespace Resolver

variable {rv : Resolver} {c : VerdictCache}

/-! ## The walk without the cache -/

/-- The first of the directories, root-most first, that the rule sets of smaller depth ignore,
with its verdict; computed without the cache. -/
def firstIgnored (ic : Bool) (ruleSets : List RuleSet) :
    List PosixPath → Except MatchError (Option Verdict)
  | [] => pure none
  | dir :: rest => do
    let v ← sweep ic dir true (ruleSets.takeWhile (·.baseDir.depth < dir.depth))
    if v.ignored then pure (some v) else firstIgnored ic ruleSets rest

/-- The verdict of a path from its applicable rule sets, computed without the cache. -/
def verdictOf (ic : Bool) (path : PosixPath) (isDirectory : Bool) :
    List RuleSet → Except MatchError Verdict
  | [] => pure .notIgnored
  | ruleSets@(top :: _) => do
    match ← firstIgnored ic ruleSets ((path.parents.takeWhile (· != top.baseDir)).reverse) with
    | some v => pure v
    | none => sweep ic path isDirectory ruleSets

theorem run_directoryVerdict_uncached (dir : PosixPath) (ruleSets : List RuleSet) :
    (rv.directoryVerdict false dir ruleSets).run.run c =
      (sweep rv.ignoreCase dir true ruleSets, c) :=
  run_liftMatch _ c

theorem run_ignoredAncestor_uncached (ruleSets : List RuleSet) :
    ∀ (dirs : List PosixPath) (c : VerdictCache),
      (rv.ignoredAncestor false ruleSets dirs).run.run c =
        (firstIgnored rv.ignoreCase ruleSets dirs, c)
  | [], _ => rfl
  | dir :: rest, c => by
    rw [ignoredAncestor, run_bind, run_directoryVerdict_uncached, firstIgnored]
    cases sweep rv.ignoreCase dir true (ruleSets.takeWhile (·.baseDir.depth < dir.depth)) with
    | error e => rfl
    | ok v =>
      show (if v.ignored then pure (some v) else rv.ignoredAncestor false ruleSets rest).run.run c =
        ((if v.ignored then pure (some v) else firstIgnored rv.ignoreCase ruleSets rest), c)
      by_cases hv : v.ignored
      · rw [if_pos hv, if_pos hv]
        rfl
      · rw [if_neg hv, if_neg hv]
        exact run_ignoredAncestor_uncached ruleSets rest c

theorem run_compute_uncached (path : PosixPath) (isDirectory : Bool) (ruleSets : List RuleSet) :
    (rv.compute false path isDirectory ruleSets).run.run c =
      (verdictOf rv.ignoreCase path isDirectory ruleSets, c) := by
  cases ruleSets with
  | nil => rfl
  | cons top rest =>
    rw [compute, run_bind, run_ignoredAncestor_uncached, verdictOf]
    cases firstIgnored rv.ignoreCase (top :: rest)
        ((path.parents.takeWhile (· != top.baseDir)).reverse) with
    | error e => rfl
    | ok found =>
      cases found with
      | some v => rfl
      | none => exact run_liftMatch _ c

/-- With the cache off, resolving computes `verdictOf` over the applicable rule sets and leaves
the cache as it was. -/
theorem run_resolve_uncached (q : String) (isDirectory : Bool) :
    (rv.resolve q isDirectory false).run.run c =
      (verdictOf rv.ignoreCase (PosixPath.normalize q) isDirectory
        (rv.registry.applicable (PosixPath.normalize q)), c) := by
  unfold resolve
  dsimp only
  split
  · rename_i h
    rw [h]
    rfl
  · -- with the cache off, the lookup is only its computation
    simp only [cached, Bool.false_eq_true, ↓reduceIte]
    exact run_compute_uncached _ _ _

end Resolver

/-! ## Searching a list in the `Except` monad -/

section Search

variable {ε α β : Type}

theorem findSomeM?_congr {f g : α → Except ε (Option β)} :
    ∀ {l : List α}, (∀ a ∈ l, f a = g a) → l.findSomeM? f = l.findSomeM? g
  | [], _ => rfl
  | a :: l, h => by
    rw [List.findSomeM?_cons, List.findSomeM?_cons, h a List.mem_cons_self,
      findSomeM?_congr fun b hb => h b (List.mem_cons_of_mem a hb)]

/-- A search over two lists finds in the first, or else searches the second. -/
theorem findSomeM?_append (f : α → Except ε (Option β)) :
    ∀ (l₁ l₂ : List α), (l₁ ++ l₂).findSomeM? f = (do
      match ← l₁.findSomeM? f with
      | some b => pure (some b)
      | none => l₂.findSomeM? f)
  | [], l₂ => by
    show l₂.findSomeM? f = (pure none >>= _)
    cases l₂.findSomeM? f <;> rfl
  | a :: l₁, l₂ => by
    rw [List.cons_append, List.findSomeM?_cons, List.findSomeM?_cons, findSomeM?_append f l₁ l₂]
    cases f a with
    | error e => rfl
    | ok found =>
      cases found with
      | some b => rfl
      | none => rfl

theorem findSomeM?_eq_ok_none {f : α → Except ε (Option β)} :
    ∀ {l : List α}, (∀ a ∈ l, f a = .ok none) → l.findSomeM? f = .ok none
  | [], _ => rfl
  | a :: l, h => by
    rw [List.findSomeM?_cons, h a List.mem_cons_self]
    exact findSomeM?_eq_ok_none fun b hb => h b (List.mem_cons_of_mem a hb)

end Search

/-! ## The verdict from the precedence rules -/

/-- The verdict a pattern gives when it decides. -/
def Pattern.verdict (pat : Pattern) : Verdict := ⟨!pat.negated, some pat⟩

/-- The last pattern, in file order, that matches a path taken relative to the rule set's base
directory. -/
def RuleSet.lastMatch (rs : RuleSet) (x : PosixPath) (isDirectory ignoreCase : Bool) :
    Except MatchError (Option Pattern) :=
  rs.patterns.reverse.findM? fun pat =>
    pat.matchParts ((x.relativeTo rs.baseDir).getD []) isDirectory ignoreCase

namespace Resolver

/-- The sweep of `x`: among the rule sets of `A` above `x`, the last (deepest) one that has a
matching pattern decides, by its last matching pattern; if none has one, `x` is not ignored. -/
def sweepSpec (ic : Bool) (A : List RuleSet) (x : PosixPath) (isDirectory : Bool) :
    Except MatchError Verdict := do
  let found ← (A.filter (x.isUnder ·.baseDir)).reverse.findSomeM? fun rs =>
    rs.lastMatch x isDirectory ic
  pure ((found.map Pattern.verdict).getD .notIgnored)

/-- The verdict of `p` from the rule sets `A` that apply to it, root-most first: the root-most
directory strictly between the shallowest base directory and `p` whose sweep ignores it decides;
if there is none, the sweep of `p` itself. -/
def judge (ic : Bool) (p : PosixPath) (isDirectory : Bool) :
    List RuleSet → Except MatchError Verdict
  | [] => pure .notIgnored
  | A@(top :: _) => do
    let blocking ← (p.parents.reverse.filter (·.isUnder top.baseDir)).findSomeM? fun dir => do
      let v ← sweepSpec ic A dir true
      pure (if v.ignored then some v else none)
    match blocking with
    | some v => pure v
    | none => sweepSpec ic A p isDirectory

/-- The verdict of a path by the precedence rules, over the registered rule sets whose base
directory is a proper ancestor of the normalised path, by depth, origin and id. -/
def reference (rv : Resolver) (q : String) (isDirectory : Bool) : Except MatchError Verdict :=
  let p := PosixPath.normalize q
  judge rv.ignoreCase p isDirectory (rv.registry.all.filter fun rs => p.isUnder rs.baseDir)

end Resolver

theorem RuleSet.evaluateFrom_eq (parts : List String) (isDirectory ignoreCase : Bool) :
    ∀ pats : List Pattern, RuleSet.evaluateFrom parts isDirectory ignoreCase pats = (do
      let found ← pats.findM? fun pat => pat.matchParts parts isDirectory ignoreCase
      pure (found.map Pattern.verdict))
  | [] => rfl
  | pat :: rest => by
    rw [RuleSet.evaluateFrom, List.findM?, RuleSet.evaluateFrom_eq parts isDirectory ignoreCase rest]
    cases pat.matchParts parts isDirectory ignoreCase with
    | error e => rfl
    | ok b => cases b <;> rfl

namespace Resolver

/-- The resolver's sweep takes the rule sets deepest first and the patterns of each last first. -/
theorem sweep_eq (ic : Bool) (x : PosixPath) (isDirectory : Bool) (ruleSets : List RuleSet) :
    sweep ic x isDirectory ruleSets = (do
      let found ← ruleSets.reverse.findSomeM? fun rs => rs.lastMatch x isDirectory ic
      pure ((found.map Pattern.verdict).getD .notIgnored)) := by
  rw [sweep]
  generalize ruleSets.reverse = l
  induction l with
  | nil => rfl
  | cons rs rest ih =>
    rw [sweep.deepestFirst, List.findSomeM?_cons, RuleSet.evaluate, RuleSet.evaluateFrom_eq,
      RuleSet.lastMatch]
    cases List.findM? (fun pat => pat.matchParts ((x.relativeTo rs.baseDir).getD [])
        isDirectory ic) rs.patterns.reverse with
    | error e => rfl
    | ok found =>
      cases found with
      | some pat => rfl
      | none => exact ih

/-! ## The resolver follows the precedence rules -/

/-- On a list along which a test can only start to fail, taking while it holds is filtering. -/
theorem takeWhile_eq_filter {α : Type} {P : α → Bool} :
    ∀ {l : List α}, l.Pairwise (fun a b => P b = true → P a = true) → l.takeWhile P = l.filter P
  | [], _ => rfl
  | a :: l, h => by
    obtain ⟨ha, hl⟩ := List.pairwise_cons.mp h
    by_cases hPa : P a = true
    · rw [List.takeWhile_cons_of_pos hPa, List.filter_cons_of_pos hPa, takeWhile_eq_filter hl]
    · rw [List.takeWhile_cons_of_neg hPa, List.filter_cons_of_neg hPa,
        List.filter_eq_nil_iff.mpr fun b hb hPb => hPa (ha b hb hPb)]

variable {ic : Bool} {A : List RuleSet} {p : PosixPath}

/-- Among rule sets above `p` in depth order, those shallower than an ancestor `dir` of `p`
come first, and they are exactly the ones above `dir`. -/
theorem takeWhile_depth_eq_filter (hA : A.Pairwise RuleSet.Precedes)
    (hunder : ∀ rs ∈ A, p.isUnder rs.baseDir = true) {dir : PosixPath}
    (hdir : p.isUnder dir = true) :
    A.takeWhile (·.baseDir.depth < dir.depth) = A.filter (dir.isUnder ·.baseDir) := by
  rw [takeWhile_eq_filter]
  · refine List.filter_congr fun rs hrs => ?_
    rw [Bool.eq_iff_iff, decide_eq_true_iff]
    exact PosixPath.depth_lt_iff_isUnder hdir (hunder rs hrs)
  · refine hA.imp fun hab hb => ?_
    rw [decide_eq_true_iff] at hb ⊢
    exact lt_of_le_of_lt hab.depth_le hb

theorem sweep_filter_eq_sweepSpec (x : PosixPath) (isDirectory : Bool) :
    sweep ic x isDirectory (A.filter (x.isUnder ·.baseDir)) = sweepSpec ic A x isDirectory := by
  rw [sweep_eq]
  rfl

/-- Filtering out rule sets that are not above `x` anyway does not change its sweep. -/
theorem sweepSpec_filter {q : RuleSet → Bool} {x : PosixPath} (isDirectory : Bool)
    (h : ∀ rs ∈ A, x.isUnder rs.baseDir = true → q rs = true) :
    sweepSpec ic (A.filter q) x isDirectory = sweepSpec ic A x isDirectory := by
  have hfilter : (A.filter q).filter (x.isUnder ·.baseDir) = A.filter (x.isUnder ·.baseDir) := by
    rw [List.filter_filter]
    refine List.filter_congr fun rs hrs => ?_
    by_cases hx : x.isUnder rs.baseDir = true
    · simp [hx, h rs hrs hx]
    · simp [hx]
  simp only [sweepSpec, hfilter]

/-- Whether the sweep of a directory ignores it, as the step of the search for a blocking
directory. -/
def blocks (ic : Bool) (A : List RuleSet) (dir : PosixPath) : Except MatchError (Option Verdict) :=
  do
    let v ← sweepSpec ic A dir true
    pure (if v.ignored then some v else none)

theorem judge_cons (top : RuleSet) (rest : List RuleSet) (isDirectory : Bool) :
    judge ic p isDirectory (top :: rest) = (do
      let blocking ← (p.parents.reverse.filter (·.isUnder top.baseDir)).findSomeM?
        (blocks ic (top :: rest))
      match blocking with
      | some v => pure v
      | none => sweepSpec ic (top :: rest) p isDirectory) := rfl

theorem blocks_of_sweepSpec {x : PosixPath} {v : Verdict} (hv : sweepSpec ic A x true = .ok v) :
    blocks ic A x = .ok (if v.ignored then some v else none) := by
  rw [blocks, hv]
  rfl

/-- The search for a blocking directory, one directory at a time, as the resolver walks. -/
theorem findSomeM?_blocks_cons (dir : PosixPath) (dirs : List PosixPath) :
    (dir :: dirs).findSomeM? (blocks ic A) = (do
      let v ← sweepSpec ic A dir true
      if v.ignored then pure (some v) else dirs.findSomeM? (blocks ic A)) := by
  rw [List.findSomeM?_cons]
  cases hv : sweepSpec ic A dir true with
  | error e => rw [blocks, hv]; rfl
  | ok v =>
    rw [blocks_of_sweepSpec hv]
    by_cases hign : v.ignored = true
    · simp only [bind, Except.bind, hign, if_true]
    · simp only [bind, Except.bind, hign, Bool.false_eq_true, if_false]

theorem firstIgnored_eq (hA : A.Pairwise RuleSet.Precedes)
    (hunder : ∀ rs ∈ A, p.isUnder rs.baseDir = true) :
    ∀ dirs : List PosixPath, (∀ dir ∈ dirs, p.isUnder dir = true) →
      firstIgnored ic A dirs = dirs.findSomeM? (blocks ic A)
  | [], _ => rfl
  | dir :: rest, hdirs => by
    rw [firstIgnored, findSomeM?_blocks_cons,
      takeWhile_depth_eq_filter hA hunder (hdirs dir List.mem_cons_self),
      sweep_filter_eq_sweepSpec,
      firstIgnored_eq hA hunder rest fun d hd => hdirs d (List.mem_cons_of_mem dir hd)]

/-- Over rule sets above the path in precedence order, the resolver's walk gives the verdict of
the precedence rules. -/
theorem verdictOf_eq_judge (hA : A.Pairwise RuleSet.Precedes)
    (hunder : ∀ rs ∈ A, p.isUnder rs.baseDir = true) (isDirectory : Bool) :
    verdictOf ic p isDirectory A = judge ic p isDirectory A := by
  cases A with
  | nil => rfl
  | cons top rest =>
    have hdirs : ∀ dir ∈ p.parents.reverse.filter (·.isUnder top.baseDir), p.isUnder dir = true :=
      fun dir hdir => PosixPath.mem_parents.mp (List.mem_reverse.mp (List.mem_filter.mp hdir).1)
    have hsweep : sweep ic p isDirectory (top :: rest) = sweepSpec ic (top :: rest) p isDirectory := by
      rw [← sweep_filter_eq_sweepSpec, List.filter_eq_self.mpr hunder]
    rw [verdictOf, judge_cons, PosixPath.between_eq_filter (hunder top List.mem_cons_self),
      firstIgnored_eq hA hunder _ hdirs]
    cases (p.parents.reverse.filter (·.isUnder top.baseDir)).findSomeM? (blocks ic (top :: rest)) with
    | error e => rfl
    | ok found =>
      cases found with
      | some v => rfl
      | none => exact hsweep

end Resolver

namespace Resolver

variable {rv : Resolver} {ic : Bool} {A : List RuleSet} {p : PosixPath}

/-- On every reachable registry, resolving a path without the cache gives the verdict of the
precedence rules, and leaves the cache as it was. -/
theorem resolve_uncached_eq_reference (hr : rv.registry.Reachable) (q : String)
    (isDirectory : Bool) (c : VerdictCache) :
    (rv.resolve q isDirectory false).run.run c = (rv.reference q isDirectory, c) := by
  have hids := hr.idsDistinct
  rw [run_resolve_uncached, reference, ← Registry.applicable_eq_filter_all hids,
    verdictOf_eq_judge (Registry.pairwise_applicable hids)
      fun rs hrs => (Registry.mem_applicable.mp hrs).2]

/-- A registry with a root rule set ignoring build/ and a nested one re-including keep.o. -/
theorem resolve_uncached_eq_reference_nested :
    let r := ((Registry.empty.register (RuleSet.ofText 1 "root" (PosixPath.normalize "/repo")
        "build/\n*.o" Origin.found 100)).2.register (RuleSet.ofText 2 "nested"
        (PosixPath.normalize "/repo/build") "!keep.o" Origin.found 100)).2
    r.Reachable ∧
      (({ registry := r, ignoreCase := false } : Resolver).resolve "/repo/build/keep.o" false
        false).run.run (VerdictCache.empty 10) =
      (({ registry := r, ignoreCase := false } : Resolver).reference "/repo/build/keep.o" false,
        VerdictCache.empty 10) := by
  intro r
  have hr : r.Reachable := .register _ (.register _ .empty)
  exact ⟨hr, @resolve_uncached_eq_reference ⟨r, false⟩ hr _ _ _⟩

/-! ## An ignored directory decides for its subtree -/

/-- If the sweep of every directory in `dirs` is the same with `A` and with `B`, so is the search
for a blocking directory. -/
theorem findSomeM?_blocks_congr {B : List RuleSet} {dirs : List PosixPath}
    (h : ∀ dir ∈ dirs, sweepSpec ic A dir true = sweepSpec ic B dir true) :
    dirs.findSomeM? (blocks ic A) = dirs.findSomeM? (blocks ic B) :=
  findSomeM?_congr fun dir hdir => by rw [blocks, blocks, h dir hdir]

/-- Only a nonempty list of rule sets ignores a path. -/
theorem ne_nil_of_judge_ignored {isDirectory : Bool} {v : Verdict}
    (hv : judge ic p isDirectory A = .ok v) (hign : v.ignored = true) : A ≠ [] := by
  rintro rfl
  cases hv
  simp [Verdict.notIgnored] at hign

/-- The shallowest of the rule sets above `p` is above every ancestor of `p` that one of them is
above. -/
theorem isUnder_top_of_mem {top b : RuleSet} {rest : List RuleSet}
    (hA : (top :: rest).Pairwise RuleSet.Precedes)
    (hunder : ∀ rs ∈ top :: rest, p.isUnder rs.baseDir = true) {dir : PosixPath}
    (hdir : p.isUnder dir = true) (hb : b ∈ top :: rest) (hbdir : dir.isUnder b.baseDir = true) :
    dir.isUnder top.baseDir = true := by
  rcases List.mem_cons.mp hb with rfl | hbrest
  · exact hbdir
  · have hdepth : top.baseDir.depth < dir.depth :=
      lt_of_le_of_lt ((List.pairwise_cons.mp hA).1 b hbrest).depth_le
        (PosixPath.depth_lt_of_isUnder hbdir)
    exact PosixPath.isUnder_of_depth_lt hdir (hunder top List.mem_cons_self) hdepth

/-- Over the rule sets above `p` in precedence order, if the rule sets above an ancestor `dir`
ignore it, then `p` gets the same verdict. -/
theorem judge_below_ignored (hA : A.Pairwise RuleSet.Precedes)
    (hunder : ∀ rs ∈ A, p.isUnder rs.baseDir = true) {dir : PosixPath}
    (hdir : p.isUnder dir = true) {v : Verdict}
    (hv : judge ic dir true (A.filter (dir.isUnder ·.baseDir)) = .ok v) (hign : v.ignored = true)
    (isDirectory : Bool) : judge ic p isDirectory A = .ok v := by
  -- some rule set is above `dir`, so the shallowest of `A` is
  obtain ⟨b, hb⟩ := List.exists_mem_of_ne_nil _ (ne_nil_of_judge_ignored hv hign)
  obtain ⟨hbA, hbdir⟩ := List.mem_filter.mp hb
  obtain ⟨top, rest, rfl⟩ := List.exists_cons_of_ne_nil (List.ne_nil_of_mem hbA)
  have htop := isUnder_top_of_mem hA hunder hdir hbA hbdir
  rw [List.filter_cons_of_pos (p := fun rs : RuleSet => dir.isUnder rs.baseDir) htop] at hv
  -- the directories between `top` and `p` are those up to `dir`, then `dir`, then deeper ones
  obtain ⟨deeper, hdeeper⟩ := PosixPath.parents_reverse_of_isUnder hdir
  have hdirs : p.parents.reverse.filter (·.isUnder top.baseDir) =
      dir.parents.reverse.filter (·.isUnder top.baseDir) ++
        dir :: deeper.filter (·.isUnder top.baseDir) := by
    rw [hdeeper, List.filter_append,
      List.filter_cons_of_pos (p := fun x : PosixPath => x.isUnder top.baseDir) htop]
  -- at `dir` and above it, a sweep over `A` is a sweep over the rule sets above `dir`
  have hsame : ∀ x : PosixPath, (x = dir ∨ dir.isUnder x = true) →
      sweepSpec ic (top :: rest) x true =
        sweepSpec ic ((top :: rest).filter (dir.isUnder ·.baseDir)) x true := by
    intro x hx
    rw [sweepSpec_filter]
    intro rs _ hrs
    rcases hx with rfl | hx
    · exact hrs
    · exact PosixPath.isUnder_trans hx hrs
  have habove : (dir.parents.reverse.filter (·.isUnder top.baseDir)).findSomeM?
        (blocks ic (top :: rest)) =
      (dir.parents.reverse.filter (·.isUnder top.baseDir)).findSomeM?
        (blocks ic (top :: (rest.filter (dir.isUnder ·.baseDir)))) := by
    refine findSomeM?_blocks_congr fun x hx => ?_
    rw [hsame x (Or.inr (PosixPath.mem_parents.mp (List.mem_reverse.mp (List.mem_filter.mp hx).1))),
      List.filter_cons_of_pos (p := fun rs : RuleSet => dir.isUnder rs.baseDir) htop]
  rw [judge_cons] at hv
  rw [judge_cons, hdirs, findSomeM?_append, habove]
  cases hfound : (dir.parents.reverse.filter (·.isUnder top.baseDir)).findSomeM?
      (blocks ic (top :: (rest.filter (dir.isUnder ·.baseDir)))) with
  | error e =>
    rw [hfound] at hv
    cases hv
  | ok found =>
    rw [hfound] at hv
    cases found with
    | some w => exact hv
    | none =>
      -- no directory above `dir` blocks, so the sweep of `dir` itself gave the verdict
      have hdirv : sweepSpec ic (top :: rest) dir true = .ok v := by
        rw [hsame dir (Or.inl rfl), List.filter_cons_of_pos (p := fun rs : RuleSet => dir.isUnder rs.baseDir) htop]
        exact hv
      rw [List.findSomeM?_cons, blocks_of_sweepSpec hdirv]
      simp only [hign, if_true]
      rfl

/-- On a registry with distinct ids, if the resolver's walk ignores a directory, it gives every
path below it the same verdict. -/
theorem verdictOf_below_ignored {r : Registry} (hids : r.IdsDistinct) {dir : PosixPath}
    (hdir : p.isUnder dir = true) {v : Verdict}
    (hv : verdictOf ic dir true (r.applicable dir) = .ok v) (hign : v.ignored = true)
    (isDirectory : Bool) : verdictOf ic p isDirectory (r.applicable p) = .ok v := by
  have hA := Registry.pairwise_applicable (p := p) hids
  have hunder : ∀ rs ∈ r.applicable p, p.isUnder rs.baseDir = true :=
    fun rs hrs => (Registry.mem_applicable.mp hrs).2
  rw [verdictOf_eq_judge (Registry.pairwise_applicable hids)
    (fun rs hrs => (Registry.mem_applicable.mp hrs).2), Registry.applicable_of_isUnder hids hdir] at hv
  rw [verdictOf_eq_judge hA hunder]
  exact judge_below_ignored hA hunder hdir hv hign isDirectory

end Resolver

end IgnoreRules
