import IgnoreRules.Path.Posix
import Mathlib.Data.List.Sort

/-!
# Ancestors of a path

A proper ancestor of a path has the same root and a proper prefix of its components
(registry.py:28–46 and resolver.py:74–93 walk them). `PosixPath.parents` lists the ancestors nearest
first and `PosixPath.isUnder` tests the relation; `mem_parents` ties the two together. Depth orders
the ancestors of one path: of two of them the shallower is an ancestor of the deeper
(`isUnder_of_depth_lt`).

The resolver walks the directories strictly between the shallowest base directory `top` and the
path, written as the parents taken up to `top` and reversed. `mem_between` says which these are,
`pairwise_between` that they come root-most first, and `between_eq_filter` that they are the
ancestors of the path below `top`, root-most first.

Verdicts are cached under the text of a path. The second part shows that a path as normalisation
produces it is determined by its text: `Canonical` is that form, `canonical_normalize` says that
normalising gives it, and `toString_injective` that its text tells it apart.
-/

namespace IgnoreRules

/-- No piece of a list split at `a` contains `a`. -/
theorem not_mem_of_mem_splitOn {α : Type} [BEq α] [LawfulBEq α] {a : α} :
    ∀ {xs l : List α}, l ∈ xs.splitOn a → a ∉ l
  | [], l, h => by
    rw [List.splitOn_nil, List.mem_singleton] at h
    subst h
    exact List.not_mem_nil
  | x :: xs, l, h => by
    rw [List.splitOn_cons_eq_if_modifyHead] at h
    obtain ⟨hd, tl, hsplit⟩ := List.exists_cons_of_ne_nil (List.splitOn_ne_nil a xs)
    have ih := @not_mem_of_mem_splitOn α _ _ a xs
    split at h
    · rcases List.mem_cons.mp h with rfl | h
      · exact List.not_mem_nil
      · exact ih h
    · rename_i hx
      rw [hsplit, List.modifyHead_cons] at h
      rcases List.mem_cons.mp h with rfl | h
      · have hhd := ih (l := hd) (by rw [hsplit]; exact List.mem_cons_self)
        intro hmem
        rcases List.mem_cons.mp hmem with rfl | hmem
        · exact hx (beq_self_eq_true _)
        · exact hhd hmem
      · exact ih (by rw [hsplit]; exact List.mem_cons_of_mem hd h)

namespace PosixPath

variable {p q r top : PosixPath}

/-! ## Ancestors and depth -/

theorem isUnder_iff :
    p.isUnder q = true ↔
      p.root = q.root ∧ q.parts.length < p.parts.length ∧ q.parts <+: p.parts := by
  simp [isUnder, List.isPrefixOf_iff_prefix, and_assoc]

/-- The parents of a path are exactly its proper ancestors. -/
theorem mem_parents : q ∈ p.parents ↔ p.isUnder q = true := by
  rw [isUnder_iff]
  simp only [parents, List.mem_map, List.mem_reverse, List.mem_range]
  constructor
  · rintro ⟨n, hn, rfl⟩
    refine ⟨rfl, ?_, List.take_prefix n p.parts⟩
    rw [List.length_take]
    omega
  · rintro ⟨hroot, hlen, hpre⟩
    refine ⟨q.parts.length, hlen, ?_⟩
    cases q
    rw [hroot, ← List.prefix_iff_eq_take.mp hpre]

theorem depth_lt_of_isUnder (h : p.isUnder q = true) : q.depth < p.depth := by
  obtain ⟨hroot, hlen, -⟩ := isUnder_iff.mp h
  simp only [depth, hroot]
  omega

theorem isUnder_trans (h₁ : p.isUnder q = true) (h₂ : q.isUnder r = true) :
    p.isUnder r = true := by
  obtain ⟨hroot₁, hlen₁, hpre₁⟩ := isUnder_iff.mp h₁
  obtain ⟨hroot₂, hlen₂, hpre₂⟩ := isUnder_iff.mp h₂
  exact isUnder_iff.mpr ⟨hroot₁.trans hroot₂, by omega, hpre₂.trans hpre₁⟩

/-- Of two ancestors of one path, the shallower is an ancestor of the deeper. -/
theorem isUnder_of_depth_lt (hq : p.isUnder q = true) (hr : p.isUnder r = true)
    (h : r.depth < q.depth) : q.isUnder r = true := by
  obtain ⟨hrootq, -, hpreq⟩ := isUnder_iff.mp hq
  obtain ⟨hrootr, -, hprer⟩ := isUnder_iff.mp hr
  have hroot : q.root = r.root := hrootq.symm.trans hrootr
  have hlen : r.parts.length < q.parts.length := by
    simp only [depth, hroot] at h
    omega
  exact isUnder_iff.mpr ⟨hroot, hlen, List.prefix_of_prefix_length_le hprer hpreq hlen.le⟩

/-- Two ancestors of one path compare by depth as they compare as ancestors. -/
theorem depth_lt_iff_isUnder (hq : p.isUnder q = true) (hr : p.isUnder r = true) :
    r.depth < q.depth ↔ q.isUnder r = true :=
  ⟨isUnder_of_depth_lt hq hr, depth_lt_of_isUnder⟩

theorem relativeTo_of_isUnder (h : p.isUnder q = true) :
    p.relativeTo q = some (p.parts.drop q.parts.length) := by
  obtain ⟨hroot, -, hpre⟩ := isUnder_iff.mp h
  simp [relativeTo, hroot, List.isPrefixOf_iff_prefix.mpr hpre]

/-- The parents come nearest first, each shallower than the one before. -/
theorem pairwise_parents : p.parents.Pairwise (fun a b => b.depth < a.depth) := by
  simp only [parents, List.pairwise_map, List.pairwise_reverse]
  refine List.pairwise_lt_range.imp_of_mem fun {m n} _ hn hmn => ?_
  have hn : n < p.parts.length := List.mem_range.mp hn
  simp only [depth, List.length_take]
  omega

/-- The ancestors of a path, root-most first, start with those of any one of them, then it. -/
theorem parents_reverse_of_isUnder (h : p.isUnder q = true) :
    ∃ rest, p.parents.reverse = q.parents.reverse ++ q :: rest := by
  obtain ⟨hroot, hlen, hpre⟩ := isUnder_iff.mp h
  have hq : q = ⟨p.root, p.parts.take q.parts.length⟩ := by
    rw [hroot, ← List.prefix_iff_eq_take.mp hpre]
  have hparents : ∀ t : PosixPath,
      t.parents.reverse = (List.range t.parts.length).map fun n => ⟨t.root, t.parts.take n⟩ := by
    intro t
    rw [parents, ← List.map_reverse, List.reverse_reverse]
  obtain ⟨j, hj⟩ : ∃ j, p.parts.length = q.parts.length + 1 + j := ⟨_, (Nat.add_sub_of_le hlen).symm⟩
  refine ⟨((List.range j).map (q.parts.length + 1 + ·)).map fun n => ⟨p.root, p.parts.take n⟩, ?_⟩
  rw [hparents p, hparents q, hj, List.range_add, List.range_succ, List.map_append, List.map_append,
    List.map_singleton, List.append_assoc, List.singleton_append, ← hq]
  congr 1
  refine List.map_congr_left fun n hn => ?_
  have hn : n < q.parts.length := List.mem_range.mp hn
  conv_rhs => rw [hq]
  simp only [List.take_take, Nat.min_eq_left hn.le]

/-! ## The directories between the top base directory and the path -/

/-- Before `top`, a list ordered by decreasing depth holds what is deeper than `top`. -/
theorem mem_takeWhile_ne {l : List PosixPath} (hl : l.Pairwise (fun a b => b.depth < a.depth))
    (htop : top ∈ l) : q ∈ l.takeWhile (· != top) ↔ q ∈ l ∧ top.depth < q.depth := by
  induction l with
  | nil => simp at htop
  | cons a l ih =>
    obtain ⟨ha, hl⟩ := List.pairwise_cons.mp hl
    by_cases hat : a = top
    · subst hat
      simp only [bne_self_eq_false, List.takeWhile_cons_of_neg, List.not_mem_nil, false_iff,
        Bool.false_eq_true, not_false_eq_true]
      rintro ⟨hq, hlt⟩
      rcases List.mem_cons.mp hq with rfl | hq
      · exact Nat.lt_irrefl _ hlt
      · exact Nat.lt_asymm hlt (ha q hq)
    · have htop' : top ∈ l := (List.mem_cons.mp htop).resolve_left (Ne.symm hat)
      rw [List.takeWhile_cons_of_pos (p := (· != top)) (bne_iff_ne.mpr hat), List.mem_cons,
        ih hl htop', List.mem_cons]
      constructor
      · rintro (rfl | ⟨hq, hlt⟩)
        · exact ⟨Or.inl rfl, ha top htop'⟩
        · exact ⟨Or.inr hq, hlt⟩
      · rintro ⟨rfl | hq, hlt⟩
        · exact Or.inl rfl
        · exact Or.inr ⟨hq, hlt⟩

/-- The directories between `top` and the path are its ancestors below `top`. -/
theorem mem_between (htop : p.isUnder top = true) :
    q ∈ (p.parents.takeWhile (· != top)).reverse ↔
      p.isUnder q = true ∧ q.isUnder top = true := by
  rw [List.mem_reverse, mem_takeWhile_ne pairwise_parents (mem_parents.mpr htop), mem_parents]
  constructor
  · rintro ⟨hq, hlt⟩
    exact ⟨hq, isUnder_of_depth_lt hq htop hlt⟩
  · rintro ⟨hq, hqtop⟩
    exact ⟨hq, depth_lt_of_isUnder hqtop⟩

/-- The directories between `top` and the path come root-most first. -/
theorem pairwise_between :
    ((p.parents.takeWhile (· != top)).reverse).Pairwise (fun a b => a.depth < b.depth) := by
  rw [List.pairwise_reverse]
  exact (pairwise_parents.sublist (List.takeWhile_prefix _).sublist)

/-- The directories between `top` and the path, as the ancestors below `top` root-most first. -/
theorem between_eq_filter (htop : p.isUnder top = true) :
    (p.parents.takeWhile (· != top)).reverse = p.parents.reverse.filter (·.isUnder top) := by
  have : Std.Irrefl (fun a b : PosixPath => a.depth < b.depth) := ⟨fun _ => Nat.lt_irrefl _⟩
  refine List.Pairwise.eq_of_mem_iff pairwise_between ?_ fun q => ?_
  · rw [List.pairwise_filter]
    refine (List.pairwise_reverse.mpr pairwise_parents).imp fun h _ _ => h
  · rw [mem_between htop, List.mem_filter, List.mem_reverse, mem_parents]

/-! ## Paths as normalisation produces them -/

/-- The form of a normalised path: a root of at most two slashes, and components that are
neither empty nor `.` and hold no slash. -/
structure Canonical (p : PosixPath) : Prop where
  root_eq : p.root = "" ∨ p.root = "/" ∨ p.root = "//"
  ne_empty : ∀ c ∈ p.parts, c ≠ ""
  ne_dot : ∀ c ∈ p.parts, c ≠ "."
  slash_not_mem : ∀ c ∈ p.parts, '/' ∉ c.toList

theorem Canonical.of_mem_parents (hp : p.Canonical) (hq : q ∈ p.parents) : q.Canonical := by
  simp only [parents, List.mem_map, List.mem_reverse, List.mem_range] at hq
  obtain ⟨n, -, rfl⟩ := hq
  exact ⟨hp.root_eq, fun c hc => hp.ne_empty c (List.mem_of_mem_take hc),
    fun c hc => hp.ne_dot c (List.mem_of_mem_take hc),
    fun c hc => hp.slash_not_mem c (List.mem_of_mem_take hc)⟩

/-- A fold whose step adds at most the element it reads keeps to the elements it has seen. -/
theorem mem_foldl_of_step {α : Type} {f : List α → α → List α}
    (hf : ∀ acc x c, c ∈ f acc x → c = x ∨ c ∈ acc) :
    ∀ {xs acc : List α} {c : α}, c ∈ xs.foldl f acc → c ∈ acc ∨ c ∈ xs
  | [], _, _, h => Or.inl h
  | x :: xs, acc, c, h => by
    rw [List.foldl_cons] at h
    rcases mem_foldl_of_step hf h with hc | hc
    · rcases hf acc x c hc with rfl | hc
      · exact Or.inr List.mem_cons_self
      · exact Or.inl hc
    · exact Or.inr (List.mem_cons_of_mem x hc)

/-- Applying `..` components only drops components. -/
theorem mem_of_mem_resolveDots {absolute : Bool} {parts : List String} {c : String}
    (h : c ∈ resolveDots absolute parts) : c ∈ parts := by
  unfold resolveDots at h
  refine (mem_foldl_of_step (fun acc x c hc => ?_) (List.mem_reverse.mp h)).resolve_left
    List.not_mem_nil
  split at hc
  · exact List.mem_cons.mp hc
  · split at hc
    · split at hc
      · simp at hc
      · exact Or.inl (List.mem_singleton.mp hc)
    · split at hc
      · exact List.mem_cons.mp hc
      · exact Or.inr (List.mem_cons_of_mem _ hc)

/-- Reading a text keeps only components that are neither empty nor `.` and hold no slash. -/
theorem canonical_ofString (s : String) : (ofString s).Canonical := by
  have hkeep : ∀ c ∈ (ofString s).parts, c ∈ pieces s ∧ (!c.isEmpty && c != ".") = true :=
    fun c hc => List.mem_filter.mp hc
  refine ⟨?_, fun c hc => ?_, fun c hc => ?_, fun c hc => ?_⟩
  · simp only [ofString]
    unfold rootOf
    split <;> simp
  · have := (hkeep c hc).2
    simp only [Bool.and_eq_true, Bool.not_eq_true', String.isEmpty_eq_false_iff] at this
    exact this.1
  · have := (hkeep c hc).2
    simp only [Bool.and_eq_true, bne_iff_ne] at this
    exact this.2
  · obtain ⟨l, hl, rfl⟩ := List.mem_map.mp (hkeep c hc).1
    rw [String.toList_ofList]
    exact not_mem_of_mem_splitOn hl

theorem Canonical.collapse (hp : p.Canonical) : p.collapse.Canonical :=
  ⟨hp.root_eq, fun c hc => hp.ne_empty c (mem_of_mem_resolveDots hc),
    fun c hc => hp.ne_dot c (mem_of_mem_resolveDots hc),
    fun c hc => hp.slash_not_mem c (mem_of_mem_resolveDots hc)⟩

theorem canonical_normalize (s : String) : (normalize s).Canonical :=
  (canonical_ofString s).collapse

/-- The characters of the components joined by slashes. -/
def bodyChars (p : PosixPath) : List Char := ['/'].intercalate (p.parts.map String.toList)

/-- The components of a canonical path, once joined, start with a character other than `/`. -/
theorem bodyChars_cons (hp : p.Canonical) (h : p.parts ≠ []) :
    ∃ x rest, p.bodyChars = x :: rest ∧ x ≠ '/' := by
  obtain ⟨c, cs, hparts⟩ := List.exists_cons_of_ne_nil h
  have hc : c ∈ p.parts := hparts ▸ List.mem_cons_self
  obtain ⟨x, l, hx⟩ := List.exists_cons_of_ne_nil
    (fun hnil => hp.ne_empty c hc (String.toList_eq_nil_iff.mp hnil))
  refine ⟨x, ['/'].intercalate (l :: cs.map String.toList), ?_, fun hslash => ?_⟩
  · rw [bodyChars, hparts, List.map_cons, hx, List.intercalate_cons_cons_left]
  · apply hp.slash_not_mem c hc
    rw [hx, hslash]
    exact List.mem_cons_self

theorem bodyChars_eq_nil (hp : p.Canonical) : p.bodyChars = [] ↔ p.parts = [] := by
  constructor
  · intro h
    by_contra hne
    obtain ⟨x, rest, hbody, -⟩ := bodyChars_cons hp hne
    rw [hbody] at h
    cases h
  · intro h
    simp [bodyChars, h]

theorem toList_toString (hp : p.Canonical) :
    p.toString.toList =
      if p.root = "" ∧ p.parts = [] then ['.'] else p.root.toList ++ p.bodyChars := by
  have hbody : ("/".intercalate p.parts).toList = p.bodyChars := by
    simp [bodyChars, String.toList_intercalate]
  have hempty : ("/".intercalate p.parts).isEmpty = true ↔ p.parts = [] := by
    rw [String.isEmpty_iff, ← String.toList_eq_nil_iff, hbody, bodyChars_eq_nil hp]
  simp only [toString]
  by_cases hcond : p.root = "" ∧ p.parts = []
  · rw [if_pos (by simp [hcond.1, hempty.mpr hcond.2]), if_pos hcond]
    rfl
  · rw [if_neg (by simpa [String.isEmpty_iff, hempty] using hcond), if_neg hcond,
      String.toList_append, hbody]

/-- Whether a piece of a path's text is kept as a component. -/
abbrev keepsPiece (c : String) : Bool := !c.isEmpty && c != "."

/-- A leading slash adds only an empty piece, which is dropped. -/
theorem filter_pieces_slash (l : List Char) :
    ((('/' :: l).splitOn '/').map String.ofList).filter keepsPiece =
      ((l.splitOn '/').map String.ofList).filter keepsPiece := by
  rw [List.splitOn_cons_eq_if_modifyHead, if_pos (beq_self_eq_true _), List.map_cons,
    List.filter_cons_of_neg (by simp)]

/-- The kept pieces of the joined components are the components. -/
theorem filter_pieces_body (hp : p.Canonical) :
    ((p.bodyChars.splitOn '/').map String.ofList).filter keepsPiece = p.parts := by
  by_cases h : p.parts = []
  · rw [(bodyChars_eq_nil hp).mpr h, h]
    simp
  · have hsplit : p.bodyChars.splitOn '/' = p.parts.map String.toList :=
      List.splitOn_intercalate '/' (by simpa using hp.slash_not_mem) (by simpa using h)
    rw [hsplit, List.map_map, List.filter_eq_self.mpr]
    · simp [Function.comp_def, String.ofList_toList]
    · intro c hc
      obtain ⟨c', hc', rfl⟩ := List.mem_map.mp hc
      simp [String.ofList_toList, hp.ne_empty c' hc', hp.ne_dot c' hc']

theorem rootOf_eq_double {s : String} {l : List Char} (h : s.toList = '/' :: '/' :: l)
    (hl : l.head? ≠ some '/') : rootOf s = "//" := by
  unfold rootOf
  rw [h]
  split <;> grind

theorem rootOf_eq_single {s : String} {l : List Char} (h : s.toList = '/' :: l)
    (hl : l.head? ≠ some '/') : rootOf s = "/" := by
  unfold rootOf
  rw [h]
  split <;> grind

theorem rootOf_eq_empty {s : String} (h : s.toList.head? ≠ some '/') : rootOf s = "" := by
  unfold rootOf
  split <;> grind

/-- Reading the text of a canonical path gives the path back. -/
theorem ofString_toString (hp : p.Canonical) : ofString p.toString = p := by
  have hslash : "/".toList = ['/'] := rfl
  have hslashes : "//".toList = ['/', '/'] := rfl
  -- the joined components never start with a slash
  have hhead : p.bodyChars.head? ≠ some '/' := by
    by_cases hnil : p.parts = []
    · simp [(bodyChars_eq_nil hp).mpr hnil]
    · obtain ⟨x, rest, hbody, hx⟩ := bodyChars_cons hp hnil
      simpa [hbody] using hx
  have hroot : rootOf p.toString = p.root := by
    have htext := toList_toString hp
    rcases hp.root_eq with h | h | h
    · rw [h]
      refine rootOf_eq_empty ?_
      by_cases hnil : p.parts = []
      · simp [htext, h, hnil]
      · simpa [htext, h, hnil] using hhead
    · rw [h, rootOf_eq_single (l := p.bodyChars) (by simpa [h, hslash] using htext) hhead]
    · rw [h, rootOf_eq_double (l := p.bodyChars) (by simpa [h, hslashes] using htext) hhead]
  have hparts : (pieces p.toString).filter keepsPiece = p.parts := by
    rw [pieces, toList_toString hp]
    rcases hp.root_eq with h | h | h
    · by_cases hnil : p.parts = []
      · rw [if_pos ⟨h, hnil⟩, List.splitOn_eq_singleton (by simp), hnil]
        rfl
      · rw [if_neg (fun hc => hnil hc.2), h]
        exact filter_pieces_body hp
    · rw [if_neg (fun hc => by simp [h] at hc), h, hslash]
      exact (filter_pieces_slash _).trans (filter_pieces_body hp)
    · rw [if_neg (fun hc => by simp [h] at hc), h, hslashes]
      exact (filter_pieces_slash _).trans ((filter_pieces_slash _).trans (filter_pieces_body hp))
  cases p
  simp only [ofString, hroot, hparts]

/-- A canonical path is determined by its text. -/
theorem toString_injective (hp : p.Canonical) (hq : q.Canonical) (h : p.toString = q.toString) :
    p = q := by
  rw [← ofString_toString hp, h, ofString_toString hq]

/-! ## Paths as a manager resolves them

A manager names a rule file by the text of the path it resolves from its root. When the root is
canonical and absolute, that path is `Resolved`, and resolving its text again gives it back
(`Resolved.resolveFrom_toString`): an id names itself. -/

theorem Canonical.join (hp : p.Canonical) (hq : q.Canonical) : (p.join q).Canonical := by
  unfold PosixPath.join
  split
  · exact hq
  · refine ⟨hp.root_eq, fun c hc => ?_, fun c hc => ?_, fun c hc => ?_⟩ <;>
      rcases List.mem_append.mp hc with hc | hc
    exacts [hp.ne_empty c hc, hq.ne_empty c hc, hp.ne_dot c hc, hq.ne_dot c hc,
      hp.slash_not_mem c hc, hq.slash_not_mem c hc]

/-- Under a root, a `..` is never kept: the fold that applies them never holds one. -/
theorem dotDot_not_mem_resolveDots (parts : List String) : ".." ∉ resolveDots true parts := by
  unfold resolveDots
  rw [List.mem_reverse]
  refine List.foldlRecOn (motive := fun acc => ".." ∉ acc) parts _ List.not_mem_nil ?_
  intro acc hacc c _
  by_cases hc : c = ".."
  · -- a `..` cancels the component before it, which is no `..` either
    subst hc
    match acc, hacc with
    | [], _ => simp
    | d :: rest, hacc =>
      have hd : d ≠ ".." := fun h => hacc (h ▸ List.mem_cons_self)
      simpa [hd] using fun h => hacc (List.mem_cons_of_mem d h)
  · simpa [hc, Ne.symm hc] using hacc

/-- A fold whose step pushes each element it reads builds the list reversed. -/
theorem foldl_eq_reverse_append {α : Type} {f : List α → α → List α} :
    ∀ {xs : List α}, (∀ acc x, x ∈ xs → f acc x = x :: acc) → ∀ acc, xs.foldl f acc = xs.reverse ++ acc
  | [], _, _ => rfl
  | x :: xs, hf, acc => by
    rw [List.foldl_cons, hf acc x List.mem_cons_self,
      foldl_eq_reverse_append (fun acc y hy => hf acc y (List.mem_cons_of_mem x hy))]
    simp

/-- With no `..` to apply, the components stay as they are. -/
theorem resolveDots_of_not_mem {absolute : Bool} {parts : List String} (h : ".." ∉ parts) :
    resolveDots absolute parts = parts := by
  unfold resolveDots
  rw [foldl_eq_reverse_append (fun acc c hc => ?_), List.append_nil, List.reverse_reverse]
  have hc : c ≠ ".." := fun hc' => h (hc' ▸ hc)
  simp [hc]

/-- The form of a path resolved from a canonical directory with a root: canonical, with a root,
and with no `..` left. -/
structure Resolved (p : PosixPath) : Prop where
  canonical : p.Canonical
  isAbsolute : p.isAbsolute = true
  dotDot_not_mem : ".." ∉ p.parts

theorem resolved_resolveFrom {base : PosixPath} (hc : base.Canonical)
    (ha : base.isAbsolute = true) (s : String) : (base.resolveFrom s).Resolved := by
  have hjoin : (base.join (ofString s)).isAbsolute = true := by
    unfold PosixPath.join
    split
    · assumption
    · exact ha
  have hroot : ((base.join (ofString s)).root != "") = true := by
    simpa [PosixPath.isAbsolute] using hjoin
  refine ⟨(hc.join (canonical_ofString s)).collapse, hjoin, ?_⟩
  rw [resolveFrom, PosixPath.collapse, hroot]
  exact dotDot_not_mem_resolveDots _

/-- A resolved path read back from its text, from any directory, is itself. -/
theorem Resolved.resolveFrom_toString (hp : p.Resolved) (base : PosixPath) :
    base.resolveFrom p.toString = p := by
  rw [resolveFrom, ofString_toString hp.canonical, PosixPath.join, if_pos hp.isAbsolute]
  exact congrArg (PosixPath.mk p.root) (resolveDots_of_not_mem hp.dotDot_not_mem)

theorem Resolved.normalize_toString (hp : p.Resolved) : normalize p.toString = p := by
  rw [normalize, ofString_toString hp.canonical]
  exact congrArg (PosixPath.mk p.root) (resolveDots_of_not_mem hp.dotDot_not_mem)

/-- The text of a resolved path starts with its root's slash. -/
theorem Resolved.head?_toString (hp : p.Resolved) : p.toString.toList.head? = some '/' := by
  have hroot : p.root ≠ "" := by
    intro h
    have habs := hp.isAbsolute
    simp [PosixPath.isAbsolute, h] at habs
  rw [toList_toString hp.canonical, if_neg fun h => hroot h.1]
  rcases hp.canonical.root_eq with h | h | h
  · exact absurd h hroot
  · simp [h]
  · simp [h]

end PosixPath

end IgnoreRules
