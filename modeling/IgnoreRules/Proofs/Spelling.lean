import Mathlib
import IgnoreRules.Proofs.Incremental

/-!
# Spellings of a path

A path text names a location (resolver.py:18–20, manager.py:386–390): the components between its
slashes, with empty and `.` components dropped, each `..` cancelling the component before it, and a
`..` right under the root vanishing. `Cancels` is one such cancellation, and two texts name the same
location when their components cancel down to one list with no `..` left (`SameLocation`). Under a
root, `resolveDots` computes that list: cancellations keep its answer (`resolveDots_reflTransGen`)
and reach it (`reflTransGen_cancels_resolveDots`), so it decides the relation
(`resolveDots_eq_iff`).

The root is read from the leading slashes, and POSIX keeps exactly two of them as a root of its
own: `//repo/x` names the components of `/repo/x` under another root. Normalising identifies two
texts with a root exactly when they have the same root and name the same location
(`normalize_eq_iff`), and the answers of a resolver and of a manager about a path with a root
depend on it only through that pair.

## Main statements

- `PosixPath.resolveDots_eq_iff`: under a root, two lists of components give the same result
  exactly when they cancel down to a common list with no `..`.
- `PosixPath.normalize_eq_iff`: two texts with a root normalise alike exactly when they have the
  same root and name the same location.
- `answers_agree_of_same_location`: two texts with the same root naming the same location get
  the same verdicts from a resolver and a manager, and the same path relative to the root.
-/

namespace IgnoreRules

namespace PosixPath

/-! ## Cancelling `..` components -/

/-- One cancellation among the components of a path under a root: a component other than `..`
goes with the `..` right after it, and a `..` at the front goes, the root being its own parent. -/
inductive Cancels : List String → List String → Prop
  | pair (l r : List String) (c : String) (hc : c ≠ "..") : Cancels (l ++ c :: ".." :: r) (l ++ r)
  | atRoot (r : List String) : Cancels (".." :: r) r

/-- Two path texts name the same location: their components cancel down to one list with no
`..` left. -/
def SameLocation (p q : String) : Prop :=
  ∃ L, ".." ∉ L ∧ Relation.ReflTransGen Cancels (ofString p).parts L ∧
    Relation.ReflTransGen Cancels (ofString q).parts L

/-- The step of `resolveDots` under a root, on the components kept so far, nearest first. -/
def dotsStep (acc : List String) (c : String) : List String :=
  if c != ".." then c :: acc
  else match acc with
    | [] => []
    | d :: rest => if d == ".." then c :: acc else rest

theorem resolveDots_true (parts : List String) :
    resolveDots true parts = (parts.foldl dotsStep []).reverse := rfl

theorem dotsStep_of_ne {c : String} (hc : c ≠ "..") (acc : List String) :
    dotsStep acc c = c :: acc := by
  simp [dotsStep, hc]

theorem dotsStep_dotDot_cons {d : String} (hd : d ≠ "..") (rest : List String) :
    dotsStep (d :: rest) ".." = rest := by
  simp [dotsStep, hd]

theorem dotsStep_dotDot_nil : dotsStep [] ".." = [] := rfl

/-- A cancellation keeps what `resolveDots` makes of the components. -/
theorem resolveDots_cancels {l l' : List String} (h : Cancels l l') :
    resolveDots true l = resolveDots true l' := by
  rw [resolveDots_true, resolveDots_true]
  cases h with
  | pair l r c hc =>
    -- the component is pushed and popped again, whatever was kept before it
    rw [List.foldl_append, List.foldl_append, List.foldl_cons, List.foldl_cons,
      dotsStep_of_ne hc, dotsStep_dotDot_cons hc]
  | atRoot r => rw [List.foldl_cons, dotsStep_dotDot_nil]

theorem resolveDots_reflTransGen {l l' : List String} (h : Relation.ReflTransGen Cancels l l') :
    resolveDots true l = resolveDots true l' := by
  induction h with
  | refl => rfl
  | tail _ hstep ih => exact ih.trans (resolveDots_cancels hstep)

/-- The fold of `resolveDots` only cancels: from a stack with no `..`, the kept components
followed by the rest cancel down to the result. -/
theorem reflTransGen_cancels_foldl :
    ∀ (l acc : List String), ".." ∉ acc →
      Relation.ReflTransGen Cancels (acc.reverse ++ l) (l.foldl dotsStep acc).reverse
  | [], acc, _ => by simpa using Relation.ReflTransGen.refl
  | c :: l, acc, hacc => by
    rw [List.foldl_cons]
    by_cases hc : c = ".."
    · subst hc
      match acc, hacc with
      | [], _ =>
        rw [dotsStep_dotDot_nil]
        exact .head (Cancels.atRoot l) (by simpa using reflTransGen_cancels_foldl l [] (by simp))
      | d :: rest, hacc =>
        -- the `..` cancels the nearest kept component, which is no `..`
        have hd : d ≠ ".." := fun h => hacc (h ▸ List.mem_cons_self)
        have hrest : ".." ∉ rest := fun h => hacc (List.mem_cons_of_mem d h)
        rw [dotsStep_dotDot_cons hd]
        have hstep : Cancels ((d :: rest).reverse ++ ".." :: l) (rest.reverse ++ l) := by
          simpa using Cancels.pair rest.reverse l d hd
        exact .head hstep (reflTransGen_cancels_foldl l rest hrest)
    · rw [dotsStep_of_ne hc]
      have hpush : acc.reverse ++ c :: l = (c :: acc).reverse ++ l := by simp
      rw [hpush]
      exact reflTransGen_cancels_foldl l (c :: acc) (by simp [Ne.symm hc, hacc])

theorem reflTransGen_cancels_resolveDots (l : List String) :
    Relation.ReflTransGen Cancels l (resolveDots true l) := by
  simpa [resolveDots_true] using reflTransGen_cancels_foldl l [] List.not_mem_nil

/-- Under a root, two lists of components give the same result exactly when they cancel down to
a common list with no `..`. -/
theorem resolveDots_eq_iff {l l' : List String} :
    resolveDots true l = resolveDots true l' ↔
      ∃ L, ".." ∉ L ∧ Relation.ReflTransGen Cancels l L ∧
        Relation.ReflTransGen Cancels l' L := by
  constructor
  · intro h
    refine ⟨resolveDots true l, dotDot_not_mem_resolveDots l,
      reflTransGen_cancels_resolveDots l, ?_⟩
    rw [h]
    exact reflTransGen_cancels_resolveDots l'
  · rintro ⟨L, hL, hl, hl'⟩
    calc resolveDots true l = resolveDots true L := resolveDots_reflTransGen hl
      _ = resolveDots true l' := (resolveDots_reflTransGen hl').symm

/-! ## Normalising texts with a root -/

theorem normalize_of_rootOf_ne {s : String} (h : rootOf s ≠ "") :
    normalize s = ⟨rootOf s, resolveDots true (ofString s).parts⟩ := by
  have hroot : ((ofString s).root != "") = true := bne_iff_ne.mpr h
  rw [normalize, collapse, hroot]
  rfl

/-- Two texts with a root normalise alike exactly when they have the same root and name the same
location. -/
theorem normalize_eq_iff {p q : String} (hp : rootOf p ≠ "") (hq : rootOf q ≠ "") :
    normalize p = normalize q ↔ rootOf p = rootOf q ∧ SameLocation p q := by
  rw [normalize_of_rootOf_ne hp, normalize_of_rootOf_ne hq, PosixPath.mk.injEq, resolveDots_eq_iff]
  rfl

end PosixPath

/-- A path of a request with a root is taken as it is, normalised. -/
theorem Manager.absolute_of_rootOf_ne (m : Manager) {s : String} (h : PosixPath.rootOf s ≠ "") :
    m.absolute s = PosixPath.normalize s := by
  have habs : (PosixPath.ofString s).isAbsolute = true := by
    simpa [PosixPath.isAbsolute, PosixPath.ofString] using h
  rw [Manager.absolute, PosixPath.resolveFrom, PosixPath.join, if_pos habs, PosixPath.normalize]

/-- Two texts with the same root naming the same location get the same verdicts from a resolver,
from either cache state, and from a manager; a manager finds them the same path relative to its
root, or finds neither under it (its error then names the text as given). -/
theorem answers_agree_of_same_location {p q : String} (hp : PosixPath.rootOf p ≠ "")
    (hroot : PosixPath.rootOf p = PosixPath.rootOf q) (hloc : PosixPath.SameLocation p q) :
    (∀ (rv : Resolver) (isDirectory useCache : Bool),
      rv.resolve p isDirectory useCache = rv.resolve q isDirectory useCache) ∧
    (∀ isDirectory, Manager.resolve p isDirectory = Manager.resolve q isDirectory) ∧
    (∀ isDirectory, Manager.shouldIgnore p isDirectory = Manager.shouldIgnore q isDirectory) ∧
    ∀ m : Manager, (Manager.relativePath p).run.run m = (Manager.relativePath q).run.run m ∨
      ((Manager.relativePath p).run.run m = (.error (.outsideScope p m.root.toString), m) ∧
        (Manager.relativePath q).run.run m = (.error (.outsideScope q m.root.toString), m)) := by
  have hq : PosixPath.rootOf q ≠ "" := hroot ▸ hp
  have hnorm : PosixPath.normalize p = PosixPath.normalize q :=
    (PosixPath.normalize_eq_iff hp hq).mpr ⟨hroot, hloc⟩
  have habs : ∀ m : Manager, m.absolute p = m.absolute q := fun m => by
    rw [m.absolute_of_rootOf_ne hp, m.absolute_of_rootOf_ne hq, hnorm]
  refine ⟨fun rv isDirectory useCache => ?_, fun isDirectory => ?_, fun isDirectory => ?_,
    fun m => ?_⟩
  · simp only [Resolver.resolve, hnorm]
  · simp only [Manager.resolve, habs]
  · simp only [Manager.shouldIgnore, habs]
  · -- only the error of a path outside the root keeps the text as given
    rw [Manager.relativePath, Manager.relativePath, Manager.run_bind_get, Manager.run_bind_get,
      habs m]
    rcases (m.absolute q).relativeTo m.root with _ | parts
    · exact Or.inr ⟨rfl, rfl⟩
    · left
      cases parts <;> rfl

/-- `/repo/src/../app.log` and `/repo//./app.log` name `/repo/app.log` and get the same answers. -/
theorem answers_agree_of_same_location_repo :
    let p := "/repo/src/../app.log"
    let q := "/repo//./app.log"
    PosixPath.rootOf p ≠ "" ∧ PosixPath.rootOf p = PosixPath.rootOf q ∧
      PosixPath.SameLocation p q ∧
      ((∀ (rv : Resolver) (isDirectory useCache : Bool),
        rv.resolve p isDirectory useCache = rv.resolve q isDirectory useCache) ∧
      (∀ isDirectory, Manager.resolve p isDirectory = Manager.resolve q isDirectory) ∧
      (∀ isDirectory, Manager.shouldIgnore p isDirectory = Manager.shouldIgnore q isDirectory) ∧
      ∀ m : Manager, (Manager.relativePath p).run.run m = (Manager.relativePath q).run.run m ∨
        ((Manager.relativePath p).run.run m = (.error (.outsideScope p m.root.toString), m) ∧
          (Manager.relativePath q).run.run m = (.error (.outsideScope q m.root.toString), m))) := by
  intro p q
  have hp : PosixPath.rootOf p ≠ "" := by decide
  have hroot : PosixPath.rootOf p = PosixPath.rootOf q := by decide
  have hpparts : (PosixPath.ofString p).parts = ["repo", "src", "..", "app.log"] := by decide
  have hqparts : (PosixPath.ofString q).parts = ["repo", "app.log"] := by decide
  have hloc : PosixPath.SameLocation p q := by
    refine ⟨["repo", "app.log"], by decide, ?_, by rw [hqparts]⟩
    rw [hpparts]
    exact .single (PosixPath.Cancels.pair ["repo"] ["app.log"] "src" (by decide))
  exact ⟨hp, hroot, hloc, answers_agree_of_same_location hp hroot hloc⟩

end IgnoreRules
