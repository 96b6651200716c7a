import Mathlib
import IgnoreRules.Glob.Path
import IgnoreRules.Pattern.Parse
import IgnoreRules.Proofs.Component

/-!
# The paths a pattern matches

A pattern stands for a set of paths (pattern.py:101–119, matcher.py:120–209), given as lists of
components: each segment that is a component glob takes one component of its language, and `**`
takes any number of components, at least one when it is the last segment. An unanchored pattern that
does not start with `**` matches at any depth, as if `**` stood before it. `SegmentsMatch` states
this.

The matcher compiles the segments into steps and runs them as an automaton over sets of step
positions, or, for a leading gap followed by component globs only, compares the last components
alone. Both decide `StepsMatch`, the language of the steps, which is `SegmentsMatch` again.

The language of the steps is taken over any language `comp` of the component globs. The
automaton decides it for every `comp` that the matcher of one component decides, unless that
matcher fails: with case respected `comp` is the language of the tokens, with case ignored it
can be the components the matcher answers yes to.

## Main statements

- `stepsMatch_stepsOfSegments`: the steps of the segments have the segments' language.
- `Glob.run_decidesUnless`: the automaton, from a set of positions closed under skipping gaps,
  decides whether the rest of the components can be consumed from one of them, unless a
  component check fails.
- `Glob.matchParts_decidesUnless`: both ways of matching decide the language of the steps over
  the (lowercased, when case is ignored) components, unless a component check fails.
- `Glob.matchParts_decides`: with case respected, they decide it and never fail.
- `Pattern.matchParts_decides_segmentsMatch`: a parsed pattern, with case respected, matches a
  path exactly when the directory-only rule allows it, the path is not empty, and its components
  are in the language of the pattern's segments.
-/

namespace IgnoreRules

/-! ## The language of segments and of steps -/

/-- The language of a pattern's segments: a component glob takes one component of its
language, and `**` takes any number of components, at least one when it is the last segment. -/
inductive SegmentsMatch : List Segment → List String → Prop
  | nil : SegmentsMatch [] []
  | glob {text : String} {tokens : List Token} {part : String} {segs : List Segment}
      {parts : List String} :
      TokensMatch tokens part.toList → SegmentsMatch segs parts →
        SegmentsMatch (.glob text tokens :: segs) (part :: parts)
  | globstar {skipped : List String} {segs : List Segment} {parts : List String} :
      (segs = [] → skipped ≠ []) → SegmentsMatch segs parts →
        SegmentsMatch (.globstar :: segs) (skipped ++ parts)

/-- The segments a pattern is matched with: an unanchored pattern that does not start with `**`
is matched as if `**` stood before it. -/
def Pattern.refSegments (p : Pattern) : List Segment :=
  if p.anchored = false ∧ p.segments.head? ≠ some .globstar then .globstar :: p.segments
  else p.segments

/-- The components a component glob stands for: those in the language of its tokens. -/
def Segment.Matches (s : Segment) (part : String) : Prop :=
  TokensMatch s.tokens part.toList

/-- The components a step that consumes one component accepts, when a component glob accepts
those that `comp` gives it. -/
def Step.Accepts (comp : Segment → String → Prop) : Step → String → Prop
  | .gap, _ => False
  | .anyOne, _ => True
  | .glob s, part => comp s part

/-- The language of a list of steps: a gap takes any number of components, every other step one
component that it accepts. -/
inductive StepsMatch (comp : Segment → String → Prop) : List Step → List String → Prop
  | nil : StepsMatch comp [] []
  | gap {skipped : List String} {steps : List Step} {parts : List String} :
      StepsMatch comp steps parts → StepsMatch comp (.gap :: steps) (skipped ++ parts)
  | one {step : Step} {part : String} {steps : List Step} {parts : List String} :
      step.Accepts comp part → StepsMatch comp steps parts →
        StepsMatch comp (step :: steps) (part :: parts)

namespace SegmentsMatch

variable {segs : List Segment} {parts : List String}

theorem nil_iff : SegmentsMatch [] parts ↔ parts = [] := by
  constructor
  · rintro ⟨⟩
    rfl
  · rintro rfl
    exact .nil

theorem glob_iff {text : String} {tokens : List Token} :
    SegmentsMatch (.glob text tokens :: segs) parts ↔
      ∃ part rest, parts = part :: rest ∧ TokensMatch tokens part.toList ∧ SegmentsMatch segs rest := by
  constructor
  · intro h
    cases h with
    | glob hpart h => exact ⟨_, _, rfl, hpart, h⟩
  · rintro ⟨part, rest, rfl, hpart, h⟩
    exact .glob hpart h

theorem globstar_iff :
    SegmentsMatch (.globstar :: segs) parts ↔
      ∃ skipped rest, parts = skipped ++ rest ∧ (segs = [] → skipped ≠ []) ∧
        SegmentsMatch segs rest := by
  constructor
  · intro h
    cases h with
    | globstar hlast h => exact ⟨_, _, rfl, hlast, h⟩
  · rintro ⟨skipped, rest, rfl, hlast, h⟩
    exact .globstar hlast h

end SegmentsMatch

namespace StepsMatch

variable {comp : Segment → String → Prop} {steps : List Step} {parts : List String}

theorem nil_iff : StepsMatch comp [] parts ↔ parts = [] := by
  constructor
  · rintro ⟨⟩
    rfl
  · rintro rfl
    exact .nil

theorem gap_iff :
    StepsMatch comp (.gap :: steps) parts ↔
      ∃ skipped rest, parts = skipped ++ rest ∧ StepsMatch comp steps rest := by
  constructor
  · intro h
    cases h with
    | gap h => exact ⟨_, _, rfl, h⟩
    | one hgap _ => exact hgap.elim
  · rintro ⟨skipped, rest, rfl, h⟩
    exact .gap h

theorem cons_iff {step : Step} (hstep : step ≠ .gap) :
    StepsMatch comp (step :: steps) parts ↔
      ∃ part rest, parts = part :: rest ∧ step.Accepts comp part ∧ StepsMatch comp steps rest := by
  constructor
  · intro h
    cases h with
    | gap _ => exact absurd rfl hstep
    | one hpart h => exact ⟨_, _, rfl, hpart, h⟩
  · rintro ⟨part, rest, rfl, hpart, h⟩
    exact .one hpart h

theorem cons_cons_iff {step : Step} {part : String} (hstep : step ≠ .gap) :
    StepsMatch comp (step :: steps) (part :: parts) ↔
      step.Accepts comp part ∧ StepsMatch comp steps parts := by
  rw [cons_iff hstep]
  constructor
  · rintro ⟨q, rest, heq, hq, h⟩
    obtain ⟨rfl, rfl⟩ := List.cons.inj heq
    exact ⟨hq, h⟩
  · rintro ⟨hpart, h⟩
    exact ⟨part, parts, rfl, hpart, h⟩

/-- A gap before a component either takes it or takes nothing. -/
theorem gap_cons_iff {part : String} :
    StepsMatch comp (.gap :: steps) (part :: parts) ↔
      StepsMatch comp (.gap :: steps) parts ∨ StepsMatch comp steps (part :: parts) := by
  rw [gap_iff, gap_iff]
  constructor
  · rintro ⟨skipped, rest, heq, h⟩
    cases skipped with
    | nil => exact Or.inr (by rw [heq]; exact h)
    | cons q skipped =>
      obtain ⟨rfl, rfl⟩ := List.cons.inj heq
      exact Or.inl ⟨skipped, rest, rfl, h⟩
  · rintro (⟨skipped, rest, rfl, h⟩ | h)
    · exact ⟨part :: skipped, rest, rfl, h⟩
    · exact ⟨[], part :: parts, rfl, h⟩

/-- A gap may take no component. -/
theorem gap_skip (h : StepsMatch comp steps parts) : StepsMatch comp (.gap :: steps) parts :=
  (gap_iff.mpr ⟨[], parts, rfl, h⟩)

/-- The empty path is consumed exactly by steps that are all gaps. -/
theorem nil_right_iff : StepsMatch comp steps [] ↔ ∀ step ∈ steps, step = .gap := by
  induction steps with
  | nil => simp [nil_iff]
  | cons step steps ih =>
    by_cases hstep : step = .gap
    · subst hstep
      rw [gap_iff]
      simp only [List.nil_eq_append_iff, List.mem_cons, forall_eq_or_imp, true_and]
      constructor
      · rintro ⟨skipped, rest, ⟨-, rfl⟩, h⟩
        exact ih.mp h
      · intro h
        exact ⟨[], [], ⟨rfl, rfl⟩, ih.mpr h⟩
    · rw [cons_iff hstep]
      simp only [reduceCtorEq, false_and, exists_false, List.mem_cons, forall_eq_or_imp, hstep]

end StepsMatch

/-! ## Segments as steps -/

theorem Step.glob_ne_gap (s : Segment) : Step.glob s ≠ .gap := Step.noConfusion

/-- A segment other than `**`, as a step, takes one component of its language. -/
theorem stepsMatch_glob_cons_iff {text : String} {tokens : List Token} {steps : List Step}
    {parts : List String} :
    StepsMatch Segment.Matches (.glob (.glob text tokens) :: steps) parts ↔
      ∃ part rest, parts = part :: rest ∧ TokensMatch tokens part.toList ∧
        StepsMatch Segment.Matches steps rest :=
  StepsMatch.cons_iff (Step.glob_ne_gap _)

/-- A trailing `**` compiles to the anything step and a gap: together one or more components. -/
theorem stepsMatch_anyOne_gap_iff {comp : Segment → String → Prop} {parts : List String} :
    StepsMatch comp [.anyOne, .gap] parts ↔ parts ≠ [] := by
  rw [StepsMatch.cons_iff Step.noConfusion]
  constructor
  · rintro ⟨part, rest, rfl, -, -⟩
    exact List.cons_ne_nil _ _
  · intro h
    obtain ⟨part, rest, rfl⟩ := List.exists_cons_of_ne_nil h
    refine ⟨part, rest, rfl, trivial, ?_⟩
    have hgap : StepsMatch comp [.gap] (rest ++ []) := .gap .nil
    rwa [List.append_nil] at hgap

/-- The steps of a list of segments have the segments' language. -/
theorem stepsMatch_stepsOfSegments :
    ∀ (segs : List Segment) (parts : List String),
      StepsMatch Segment.Matches (Glob.stepsOfSegments segs) parts ↔ SegmentsMatch segs parts
  | [], parts => by
    rw [Glob.stepsOfSegments, StepsMatch.nil_iff, SegmentsMatch.nil_iff]
  | [.globstar], parts => by
    -- the last `**`: at least one component
    show StepsMatch Segment.Matches [.anyOne, .gap] parts ↔ _
    rw [stepsMatch_anyOne_gap_iff, SegmentsMatch.globstar_iff]
    constructor
    · intro h
      exact ⟨parts, [], (List.append_nil _).symm, fun _ => h, .nil⟩
    · rintro ⟨skipped, rest, rfl, hlast, h⟩
      rw [SegmentsMatch.nil_iff.mp h, List.append_nil]
      exact hlast rfl
  | [.glob text tokens], parts => by
    show StepsMatch Segment.Matches [.glob (.glob text tokens)] parts ↔ _
    rw [stepsMatch_glob_cons_iff, SegmentsMatch.glob_iff]
    simp only [StepsMatch.nil_iff, SegmentsMatch.nil_iff]
  | .globstar :: seg :: segs, parts => by
    -- an inner `**`: any number of components
    show StepsMatch Segment.Matches (.gap :: Glob.stepsOfSegments (seg :: segs)) parts ↔ _
    rw [StepsMatch.gap_iff, SegmentsMatch.globstar_iff]
    simp only [stepsMatch_stepsOfSegments (seg :: segs), reduceCtorEq, false_implies, true_and]
  | .glob text tokens :: seg :: segs, parts => by
    show StepsMatch Segment.Matches
      (.glob (.glob text tokens) :: Glob.stepsOfSegments (seg :: segs)) parts ↔ _
    rw [stepsMatch_glob_cons_iff, SegmentsMatch.glob_iff]
    simp only [stepsMatch_stepsOfSegments (seg :: segs)]

/-! ## Sets of positions -/

namespace Glob

theorem mem_insertSorted {n t : Nat} {l : List Nat} : t ∈ insertSorted n l ↔ t = n ∨ t ∈ l := by
  induction l with
  | nil => simp [insertSorted]
  | cons m l ih =>
    unfold insertSorted
    split
    · simp
    · split
      · rename_i hnm
        rw [beq_iff_eq] at hnm
        subst hnm
        simp
      · simp only [List.mem_cons, ih]
        tauto

theorem mem_foldl_insertSorted {t : Nat} :
    ∀ {l acc : List Nat}, t ∈ l.foldl (fun a u => insertSorted u a) acc ↔ t ∈ l ∨ t ∈ acc
  | [], _ => by simp
  | u :: l, acc => by
    rw [List.foldl_cons, mem_foldl_insertSorted, mem_insertSorted, List.mem_cons]
    tauto

variable (g : Glob)

/-- Every position from `s` up to `t` holds a gap: `t` is reached from `s` by skipping gaps. -/
def GapsBetween (s t : Nat) : Prop := ∀ i, s ≤ i → i < t → g.steps[i]? = some .gap

variable {g}

theorem lt_size_of_gap {i : Nat} (h : g.steps[i]? = some .gap) : i < g.steps.size :=
  (Array.getElem?_eq_some_iff.mp h).1

/-- The positions `closeFrom` lists are those reached by skipping gaps, as far as the fuel goes. -/
theorem mem_closeFrom {t : Nat} :
    ∀ {s fuel : Nat}, t ∈ g.closeFrom s fuel ↔ s ≤ t ∧ t ≤ s + fuel ∧ g.GapsBetween s t
  | s, 0 => by
    simp only [closeFrom, List.mem_singleton, Nat.add_zero]
    constructor
    · rintro rfl
      exact ⟨Nat.le_refl _, Nat.le_refl _, fun i h₁ h₂ => absurd h₂ (by omega)⟩
    · rintro ⟨h₁, h₂, -⟩
      omega
  | s, fuel + 1 => by
    unfold closeFrom
    split
    · rename_i hgap
      rw [beq_iff_eq] at hgap
      rw [List.mem_cons, mem_closeFrom]
      constructor
      · rintro (rfl | ⟨h₁, h₂, hgaps⟩)
        · exact ⟨Nat.le_refl _, by omega, fun i h₁ h₂ => absurd h₂ (by omega)⟩
        · refine ⟨by omega, by omega, fun i hi₁ hi₂ => ?_⟩
          rcases Nat.eq_or_lt_of_le hi₁ with rfl | hi₁
          · exact hgap
          · exact hgaps i hi₁ hi₂
      · rintro ⟨h₁, h₂, hgaps⟩
        rcases Nat.eq_or_lt_of_le h₁ with rfl | h₁
        · exact Or.inl rfl
        · exact Or.inr ⟨h₁, by omega, fun i hi₁ hi₂ => hgaps i (by omega) hi₂⟩
    · rename_i hgap
      rw [beq_iff_eq] at hgap
      rw [List.mem_singleton]
      constructor
      · rintro rfl
        exact ⟨Nat.le_refl _, by omega, fun i h₁ h₂ => absurd h₂ (by omega)⟩
      · rintro ⟨h₁, -, hgaps⟩
        rcases Nat.eq_or_lt_of_le h₁ with rfl | h₁
        · rfl
        · exact absurd (hgaps s (Nat.le_refl _) h₁) hgap

/-- With as much fuel as there are steps, `closeFrom` reaches every position behind a run of
gaps. -/
theorem mem_closeFrom_size {s t : Nat} :
    t ∈ g.closeFrom s g.steps.size ↔ s ≤ t ∧ g.GapsBetween s t := by
  rw [mem_closeFrom]
  constructor
  · rintro ⟨h₁, -, hgaps⟩
    exact ⟨h₁, hgaps⟩
  · rintro ⟨h₁, hgaps⟩
    refine ⟨h₁, ?_, hgaps⟩
    rcases Nat.eq_or_lt_of_le h₁ with rfl | h₁
    · omega
    · have := lt_size_of_gap (hgaps (t - 1) (by omega) (by omega))
      omega

theorem mem_closure_foldl {t : Nat} :
    ∀ {S acc : List Nat}, t ∈ S.foldl (fun acc s =>
        (g.closeFrom s g.steps.size).foldl (fun a u => insertSorted u a) acc) acc ↔
      t ∈ acc ∨ ∃ s ∈ S, s ≤ t ∧ g.GapsBetween s t
  | [], _ => by simp
  | s :: S, acc => by
    rw [List.foldl_cons, mem_closure_foldl, mem_foldl_insertSorted, mem_closeFrom_size]
    simp only [List.mem_cons, exists_eq_or_imp]
    tauto

/-- The closure of a set of positions: those reached from one of them by skipping gaps. -/
theorem mem_closure {S : List Nat} {t : Nat} :
    t ∈ g.closure S ↔ ∃ s ∈ S, s ≤ t ∧ g.GapsBetween s t := by
  rw [closure, mem_closure_foldl]
  simp

/-! ## One component at a time -/

variable {comp : Segment → String → Prop} {bad : MatchError → Prop}

/-- A step that consumes one component decides whether it accepts it, for a language of the
component globs that their matcher decides unless it fails. -/
theorem passes_decidesUnless
    (hcomp : ∀ s part, DecidesUnless (s.matchComponent g.ignoreCase part) (comp s part) bad)
    (step : Step) (part : String) :
    DecidesUnless (g.passes step part) (step.Accepts comp part) bad := by
  cases step with
  | gap => exact Or.inl (Decides.of_pure (iff_of_false Bool.false_ne_true id))
  | anyOne => exact Or.inl (Decides.of_pure (iff_of_true rfl trivial))
  | glob s => exact hcomp s part

/-- Where one position goes on a component: a gap stays, a step that accepts it moves on. -/
def Moves (g : Glob) (comp : Segment → String → Prop) (part : String) (s t : Nat) : Prop :=
  (g.steps[s]? = some .gap ∧ t = s) ∨
    ∃ step, g.steps[s]? = some step ∧ step.Accepts comp part ∧ t = s + 1

/-- The positions one position moves to on a component, as `advance` computes them. -/
def reachFrom (g : Glob) (part : String) (s : Nat) : Except MatchError (List Nat) :=
  match g.steps[s]? with
  | none => pure []
  | some .gap => pure [s]
  | some step => do
    if ← g.passes step part then pure [s + 1] else pure []

theorem advance_cons (part : String) (s : Nat) (S : List Nat) :
    g.advance part (s :: S) = (do
      let here ← g.reachFrom part s
      let later ← g.advance part S
      pure (here.foldl (fun a t => insertSorted t a) later)) := by
  -- `advance` runs the rest inside each branch of its `match`; so does `reachFrom`, once the
  -- check of the step is known
  rw [advance, reachFrom]
  cases g.steps[s]? with
  | none => rfl
  | some step =>
    cases step with
    | gap => rfl
    | anyOne => rfl
    | glob seg =>
      dsimp only
      cases g.passes (.glob seg) part with
      | ok b => cases b <;> rfl
      | error e => rfl

/-- One position gives the positions it moves to, unless the check of its step fails. -/
theorem reachFrom_spec {part : String}
    (hpass : ∀ step, DecidesUnless (g.passes step part) (step.Accepts comp part) bad) (s : Nat) :
    (∃ here, g.reachFrom part s = .ok here ∧ ∀ t, t ∈ here ↔ g.Moves comp part s t) ∨
      ∃ e, g.reachFrom part s = .error e ∧ bad e := by
  unfold reachFrom
  cases hs : g.steps[s]? with
  | none => exact Or.inl ⟨[], rfl, by simp [Moves, hs]⟩
  | some step =>
    cases step with
    | gap => exact Or.inl ⟨[s], rfl, by simp [Moves, hs, Step.Accepts]⟩
    | anyOne => exact Or.inl ⟨[s + 1], rfl, by simp [Moves, hs, Step.Accepts]⟩
    | glob seg =>
      rcases hpass (.glob seg) with ⟨b, hb, hiff⟩ | ⟨e, he, hbad⟩
      · refine Or.inl ⟨if b then [s + 1] else [], ?_, fun t => ?_⟩
        · simp only [hb]
          cases b <;> rfl
        · simp only [Moves, hs, reduceCtorEq, false_and, Option.some.injEq, exists_eq_left',
            false_or, ← hiff]
          cases b <;> simp
      · exact Or.inr ⟨e, by simp only [he]; rfl, hbad⟩

/-- `advance` gives the positions that some position of the set moves to, unless the check of
a step fails. -/
theorem advance_spec {part : String}
    (hpass : ∀ step, DecidesUnless (g.passes step part) (step.Accepts comp part) bad) :
    ∀ S : List Nat, (∃ next, g.advance part S = .ok next ∧
      ∀ t, t ∈ next ↔ ∃ s ∈ S, g.Moves comp part s t) ∨
        ∃ e, g.advance part S = .error e ∧ bad e
  | [] => Or.inl ⟨[], rfl, by simp⟩
  | s :: S => by
    rcases g.reachFrom_spec hpass s with ⟨here, hhere, hmoves⟩ | ⟨e, he, hbad⟩
    · rcases advance_spec hpass S with ⟨later, hlater, hmem⟩ | ⟨e, he, hbad⟩
      · -- the positions that `s` itself moves to are added to those of the rest
        refine Or.inl ⟨_, by rw [advance_cons, hhere, hlater]; rfl, fun t => ?_⟩
        rw [mem_foldl_insertSorted, hmoves, hmem]
        simp only [List.mem_cons, exists_eq_or_imp]
      · exact Or.inr ⟨e, by rw [advance_cons, hhere, he]; rfl, hbad⟩
    · exact Or.inr ⟨e, by rw [advance_cons, he]; rfl, hbad⟩

/-! ## The automaton over sets of positions -/

theorem drop_steps_of_getElem? {s : Nat} {step : Step} (h : g.steps[s]? = some step) :
    g.steps.toList.drop s = step :: g.steps.toList.drop (s + 1) :=
  drop_eq_cons_of_getElem? (by rw [Array.getElem?_toList]; exact h)

theorem drop_steps_size : g.steps.toList.drop g.steps.size = [] :=
  List.drop_eq_nil_of_le (by simp)

theorem exists_getElem?_of_lt {s : Nat} (h : s < g.steps.size) : ∃ step, g.steps[s]? = some step :=
  ⟨g.steps[s], Array.getElem?_eq_getElem h⟩

/-- A set of positions is closed when it goes no further than the end of the steps and holds
the position after each gap it holds. -/
structure Closed (g : Glob) (S : List Nat) : Prop where
  le_size : ∀ s ∈ S, s ≤ g.steps.size
  succ_mem : ∀ s ∈ S, g.steps[s]? = some .gap → s + 1 ∈ S

/-- Gaps may take nothing, so the language from a position includes the language from any
position behind a run of gaps. -/
theorem stepsMatch_of_gapsBetween {parts : List String} :
    ∀ {s t : Nat}, s ≤ t → g.GapsBetween s t →
      StepsMatch comp (g.steps.toList.drop t) parts → StepsMatch comp (g.steps.toList.drop s) parts
  | s, t, hst, hgaps, h => by
    rcases Nat.eq_or_lt_of_le hst with rfl | hlt
    · exact h
    · rw [drop_steps_of_getElem? (hgaps s (Nat.le_refl _) hlt)]
      exact StepsMatch.gap_skip
        (stepsMatch_of_gapsBetween hlt (fun i h₁ h₂ => hgaps i (by omega) h₂) h)
termination_by s t => t - s

/-- Closing a set of positions adds nothing to the paths accepted from it. -/
theorem exists_closure_iff {S : List Nat} {parts : List String} :
    (∃ t ∈ g.closure S, StepsMatch comp (g.steps.toList.drop t) parts) ↔
      ∃ s ∈ S, StepsMatch comp (g.steps.toList.drop s) parts := by
  constructor
  · rintro ⟨t, ht, h⟩
    obtain ⟨s, hs, hst, hgaps⟩ := mem_closure.mp ht
    exact ⟨s, hs, stepsMatch_of_gapsBetween hst hgaps h⟩
  · rintro ⟨s, hs, h⟩
    exact ⟨s, mem_closure.mpr ⟨s, hs, Nat.le_refl _, fun i h₁ h₂ => absurd h₂ (by omega)⟩, h⟩

/-- The closure of positions within the steps is closed. -/
theorem closed_closure {S : List Nat} (hS : ∀ s ∈ S, s ≤ g.steps.size) :
    g.Closed (g.closure S) where
  le_size t ht := by
    obtain ⟨s, hs, hst, hgaps⟩ := mem_closure.mp ht
    rcases Nat.eq_or_lt_of_le hst with rfl | hlt
    · exact hS _ hs
    · have := lt_size_of_gap (hgaps (t - 1) (by omega) (by omega))
      omega
  succ_mem t ht hgap := by
    obtain ⟨s, hs, hst, hgaps⟩ := mem_closure.mp ht
    refine mem_closure.mpr ⟨s, hs, by omega, fun i h₁ h₂ => ?_⟩
    rcases Nat.lt_or_ge i t with hi | hi
    · exact hgaps i h₁ hi
    · obtain rfl : i = t := by omega
      exact hgap

theorem le_size_of_moves {part : String} {s t : Nat} (h : g.Moves comp part s t) :
    t ≤ g.steps.size := by
  rcases h with ⟨hgap, rfl⟩ | ⟨step, hstep, -, rfl⟩
  · exact Nat.le_of_lt (lt_size_of_gap hgap)
  · exact (Array.getElem?_eq_some_iff.mp hstep).1

/-- A path accepted from a position of a closed set starts with a component that moves some
position of the set. The induction follows the run of gaps from that position. -/
theorem exists_moves_of_stepsMatch {S : List Nat} (hS : g.Closed S) {part : String}
    {parts : List String} : ∀ {s : Nat}, s ∈ S →
      StepsMatch comp (g.steps.toList.drop s) (part :: parts) →
        ∃ t, (∃ s ∈ S, g.Moves comp part s t) ∧ StepsMatch comp (g.steps.toList.drop t) parts
  | s, hs, h => by
    rcases Nat.eq_or_lt_of_le (hS.le_size s hs) with heq | hlt
    · rw [heq, drop_steps_size, StepsMatch.nil_iff] at h
      exact absurd h (List.cons_ne_nil _ _)
    · obtain ⟨step, hstep⟩ := exists_getElem?_of_lt hlt
      rw [drop_steps_of_getElem? hstep] at h
      by_cases hgap : step = .gap
      · subst hgap
        rcases StepsMatch.gap_cons_iff.mp h with h | h
        · -- the gap takes the component and stays
          refine ⟨s, ⟨s, hs, Or.inl ⟨hstep, rfl⟩⟩, ?_⟩
          rw [drop_steps_of_getElem? hstep]
          exact h
        · -- the gap takes nothing: go on from the next position, which the set holds
          exact exists_moves_of_stepsMatch hS (hS.succ_mem s hs hstep) h
      · obtain ⟨hacc, h⟩ := (StepsMatch.cons_cons_iff hgap).mp h
        exact ⟨s + 1, ⟨s, hs, Or.inr ⟨step, hstep, hacc, rfl⟩⟩, h⟩
termination_by s => g.steps.size - s

/-- One component consumed from a closed set of positions: the rest of the path must be
accepted from a position that the component moves one of them to. -/
theorem exists_cons_iff {S : List Nat} (hS : g.Closed S) {part : String} {parts : List String} :
    (∃ s ∈ S, StepsMatch comp (g.steps.toList.drop s) (part :: parts)) ↔
      ∃ t, (∃ s ∈ S, g.Moves comp part s t) ∧ StepsMatch comp (g.steps.toList.drop t) parts := by
  constructor
  · rintro ⟨s, hs, h⟩
    exact exists_moves_of_stepsMatch hS hs h
  · rintro ⟨t, ⟨s, hs, ⟨hgap, rfl⟩ | ⟨step, hstep, hacc, rfl⟩⟩, h⟩
    · refine ⟨_, hs, ?_⟩
      rw [drop_steps_of_getElem? hgap] at h ⊢
      exact StepsMatch.gap_cons_iff.mpr (Or.inl h)
    · have hne : step ≠ .gap := by
        rintro rfl
        exact hacc
      refine ⟨s, hs, ?_⟩
      rw [drop_steps_of_getElem? hstep]
      exact (StepsMatch.cons_cons_iff hne).mpr ⟨hacc, h⟩

/-- The empty path is accepted from a closed set exactly when it holds the end of the steps. -/
theorem mem_size_of_stepsMatch_nil {S : List Nat} (hS : g.Closed S) :
    ∀ {s : Nat}, s ∈ S → StepsMatch comp (g.steps.toList.drop s) [] → g.steps.size ∈ S
  | s, hs, h => by
    rcases Nat.eq_or_lt_of_le (hS.le_size s hs) with heq | hlt
    · exact heq ▸ hs
    · obtain ⟨step, hstep⟩ := exists_getElem?_of_lt hlt
      rw [drop_steps_of_getElem? hstep, StepsMatch.nil_right_iff] at h
      obtain rfl : step = .gap := h step List.mem_cons_self
      exact mem_size_of_stepsMatch_nil hS (hS.succ_mem s hs hstep)
        (StepsMatch.nil_right_iff.mpr fun x hx => h x (List.mem_cons_of_mem _ hx))
termination_by s => g.steps.size - s

/-- The automaton, run from a closed set of positions, decides whether the components can be
consumed from one of them, unless the check of a step fails. Each component moves the set on;
the induction is on the components. -/
theorem run_decidesUnless
    (hpass : ∀ step part, DecidesUnless (g.passes step part) (step.Accepts comp part) bad) :
    ∀ (parts : List String) {S : List Nat}, g.Closed S →
      DecidesUnless (g.run S parts) (∃ s ∈ S, StepsMatch comp (g.steps.toList.drop s) parts) bad
  | [], S, hS => by
    refine Or.inl (Decides.of_pure ?_)
    rw [List.contains_iff_mem]
    constructor
    · intro h
      exact ⟨_, h, by rw [drop_steps_size]; exact .nil⟩
    · rintro ⟨s, hs, h⟩
      exact mem_size_of_stepsMatch_nil hS hs h
  | part :: parts, S, hS => by
    rcases g.advance_spec (hpass · part) S with ⟨next, hnext, hmem⟩ | ⟨e, he, hbad⟩
    · rw [run, hnext]
      show DecidesUnless (if next.isEmpty = true then pure false else g.run (g.closure next) parts)
        _ _
      rw [exists_cons_iff hS]
      split
      · -- no position moves: the path is refused
        rename_i hempty
        refine Or.inl (Decides.of_pure (iff_of_false Bool.false_ne_true ?_))
        rintro ⟨t, ht, -⟩
        rw [List.isEmpty_iff] at hempty
        exact absurd ((hmem t).mpr ht) (by rw [hempty]; exact List.not_mem_nil)
      · refine (run_decidesUnless hpass parts (closed_closure fun t ht => ?_)).congr ?_
        · obtain ⟨s, -, hmove⟩ := (hmem t).mp ht
          exact le_size_of_moves hmove
        · rw [exists_closure_iff]
          simp only [hmem]
    · -- a check fails on this component: so does the run
      exact Or.inr ⟨e, by rw [run, he]; rfl, hbad⟩

theorem closed_closure_zero : g.Closed (g.closure [0]) :=
  closed_closure (by simp)

/-- Closing the start position leaves the language of all the steps. -/
theorem exists_closure_zero_iff {parts : List String} :
    (∃ t ∈ g.closure [0], StepsMatch comp (g.steps.toList.drop t) parts) ↔
      StepsMatch comp g.steps.toList parts := by
  rw [exists_closure_iff]
  simp

/-! ## The shortcut for a leading gap before component globs -/

/-- A step list read back into segments, one segment per component glob step, is those steps. -/
theorem eq_map_glob_of_mapM {f : Step → Option Segment}
    (hf : ∀ step seg, f step = some seg → step = .glob seg) :
    ∀ {steps : List Step} {segs : List Segment}, steps.mapM f = some segs →
      steps = segs.map Step.glob
  | [], segs, h => by
    rw [List.mapM_nil] at h
    cases h
    rfl
  | step :: steps, segs, h => by
    rw [List.mapM_cons] at h
    cases hstep : f step with
    | none => simp [hstep] at h
    | some seg =>
      cases hrest : steps.mapM f with
      | none => simp [hstep, hrest] at h
      | some segs' =>
        simp only [hstep, hrest, Option.pure_def, Option.bind_eq_bind, Option.bind_some,
          Option.some.injEq] at h
        subst h
        rw [hf step seg hstep, eq_map_glob_of_mapM hf hrest, List.map_cons]

/-- The shortcut is taken only for a leading gap before component globs. -/
theorem suffixSteps_eq_some {segs : List Segment} (h : g.suffixSteps = some segs) :
    g.steps.toList = .gap :: segs.map Step.glob := by
  unfold suffixSteps at h
  split at h
  · rename_i heq
    split at h
    · rw [heq, eq_map_glob_of_mapM (fun step seg hs => ?_) h]
      cases step <;> simp_all
    · cases h
  · cases h

theorem stepsMatch_map_glob_iff {segs : List Segment} {parts : List String} :
    StepsMatch comp (segs.map Step.glob) parts ↔ List.Forall₂ comp segs parts := by
  induction segs generalizing parts with
  | nil => simp [StepsMatch.nil_iff]
  | cons seg segs ih =>
    rw [List.map_cons, StepsMatch.cons_iff (Step.glob_ne_gap seg), List.forall₂_cons_left_iff]
    constructor
    · rintro ⟨part, rest, rfl, hpart, h⟩
      exact ⟨part, rest, hpart, ih.mp h, rfl⟩
    · rintro ⟨part, rest, hpart, h, rfl⟩
      exact ⟨part, rest, rfl, hpart, ih.mpr h⟩

/-- After a leading gap, component globs only constrain the last components. -/
theorem stepsMatch_gap_map_glob_iff {segs : List Segment} {parts : List String} :
    StepsMatch comp (.gap :: segs.map Step.glob) parts ↔
      segs.length ≤ parts.length ∧
        List.Forall₂ comp segs (parts.drop (parts.length - segs.length)) := by
  rw [StepsMatch.gap_iff]
  constructor
  · rintro ⟨skipped, rest, rfl, h⟩
    have hrest := stepsMatch_map_glob_iff.mp h
    have hlen := hrest.length_eq
    have hdrop : (skipped ++ rest).length - segs.length = skipped.length := by
      simp only [List.length_append]
      omega
    rw [hdrop, List.drop_left]
    exact ⟨by simp only [List.length_append]; omega, hrest⟩
  · rintro ⟨-, h⟩
    exact ⟨parts.take (parts.length - segs.length), _, (List.take_append_drop _ _).symm,
      stepsMatch_map_glob_iff.mpr h⟩

/-- Comparing components with segments pairwise decides whether each component is in its
segment's language, unless a comparison fails. -/
theorem allPass_decidesUnless
    (hcomp : ∀ s part, DecidesUnless (s.matchComponent g.ignoreCase part) (comp s part) bad) :
    ∀ pairs : List (Segment × String),
      DecidesUnless (g.allPass pairs) (∀ x ∈ pairs, comp x.1 x.2) bad
  | [] => Or.inl (Decides.of_pure (iff_of_true rfl (by simp)))
  | (seg, part) :: rest => by
    rw [allPass]
    refine DecidesUnless.bind_ite (hcomp seg part)
      (fun h => (allPass_decidesUnless hcomp rest).congr ?_)
      (fun h => Or.inl (Decides.of_pure (iff_of_false Bool.false_ne_true ?_)))
    · simp only [List.mem_cons, forall_eq_or_imp]
      exact (and_iff_right h).symm
    · simp only [List.mem_cons, forall_eq_or_imp]
      exact fun hall => h hall.1

/-- Matching a path decides the language of the steps over its components, lowercased when
case is ignored, whether by the shortcut for a leading gap before component globs or by the
automaton, unless a component check fails. -/
theorem matchParts_decidesUnless
    (hcomp : ∀ s part, DecidesUnless (s.matchComponent g.ignoreCase part) (comp s part) bad)
    (parts : List String) :
    DecidesUnless (g.matchParts parts)
      (StepsMatch comp g.steps.toList
        (parts.map fun t => if g.ignoreCase then Text.lower t else t)) bad := by
  unfold matchParts
  cases hsuf : g.suffixSteps with
  | some segs =>
    -- the shortcut: the last components against the segments
    simp only
    rw [suffixSteps_eq_some hsuf, stepsMatch_gap_map_glob_iff, List.length_map, ← List.map_drop]
    split
    · rename_i hlen
      exact Or.inl (Decides.of_pure (iff_of_false Bool.false_ne_true fun h => by omega))
    · rename_i hlen
      refine (allPass_decidesUnless hcomp _).congr ?_
      have hlen' : segs.length =
          ((parts.drop (parts.length - segs.length)).map
            fun t => if g.ignoreCase then Text.lower t else t).length := by
        simp only [List.length_map, List.length_drop]
        omega
      rw [List.forall₂_iff_zip]
      constructor
      · intro hall
        exact ⟨by omega, hlen', fun hab => hall _ hab⟩
      · rintro ⟨-, -, hall⟩ x hx
        exact hall hx
  | none =>
    -- the automaton, from the closure of the start position
    exact (run_decidesUnless (passes_decidesUnless hcomp) _ closed_closure_zero).congr
      exists_closure_zero_iff

/-- With case respected, the matcher of one component decides the language of its tokens and
never fails. -/
theorem matchComponent_decidesUnless_matches (hg : g.ignoreCase = false) (s : Segment)
    (part : String) :
    DecidesUnless (s.matchComponent g.ignoreCase part) (s.Matches part) fun _ => False := by
  rw [hg]
  exact Or.inl (s.matchComponent_decides part)

/-- With case respected, matching a path decides the language of the steps, whether by the
shortcut for a leading gap before component globs or by the automaton, and never fails. -/
theorem matchParts_decides (hg : g.ignoreCase = false) (parts : List String) :
    Decides (g.matchParts parts) (StepsMatch Segment.Matches g.steps.toList parts) := by
  have h := (g.matchParts_decidesUnless (matchComponent_decidesUnless_matches hg) parts).decides
    fun _ h => h
  simpa only [hg, Bool.false_eq_true, ite_false, List.map_id'] using h

end Glob

/-! ## Patterns -/

/-- The leading gap is compiled exactly when the pattern is matched as if `**` stood before it. -/
theorem Pattern.leadingGap_iff (p : Pattern) :
    (!p.anchored && (p.segments.head?.map Segment.isGlobstar) != some true) = true ↔
      p.anchored = false ∧ p.segments.head? ≠ some .globstar := by
  cases h : p.segments.head? with
  | none => simp
  | some seg => cases seg <;> simp [Segment.isGlobstar]

/-- The steps of a pattern with segments have the language of its segments, with the leading
`**` of an unanchored pattern. -/
theorem stepsMatch_ofPattern_iff {p : Pattern} (hp : p.segments ≠ []) (ignoreCase : Bool)
    (parts : List String) :
    StepsMatch Segment.Matches (Glob.ofPattern p ignoreCase).steps.toList parts ↔
      SegmentsMatch p.refSegments parts := by
  simp only [Glob.ofPattern, List.toList_toArray, Pattern.refSegments]
  by_cases hlead : p.anchored = false ∧ p.segments.head? ≠ some .globstar
  · rw [if_pos ((Pattern.leadingGap_iff p).mpr hlead), if_pos hlead, List.singleton_append,
      StepsMatch.gap_iff, SegmentsMatch.globstar_iff]
    simp only [stepsMatch_stepsOfSegments, hp, false_implies, true_and]
  · rw [if_neg (mt (Pattern.leadingGap_iff p).mp hlead), if_neg hlead, List.nil_append,
      stepsMatch_stepsOfSegments]

/-- A rule line that gives a pattern gives one with at least one segment. -/
theorem Pattern.segments_ne_nil_of_ofLine {line : String} {sourceFile : Option String}
    {lineNumber : Int} {p : Pattern}
    (h : Pattern.ofLine line sourceFile lineNumber = .ok (some p)) : p.segments ≠ [] := by
  unfold Pattern.ofLine at h
  simp only at h
  split at h
  · cases h
  · split at h
    · cases h
    · split at h
      · cases h
      · cases h
      · -- a pattern is made only from a non-empty list of segments
        cases h
        assumption

/-- A parsed pattern, with case respected, matches a path exactly when the directory-only rule
allows it, the path is not empty, and its components are in the language of the pattern's
segments (with the leading `**` of an unanchored pattern); and matching never fails. -/
theorem Pattern.matchParts_decides_segmentsMatch {line : String} {sourceFile : Option String}
    {lineNumber : Int} {p : Pattern}
    (hp : Pattern.ofLine line sourceFile lineNumber = .ok (some p))
    (parts : List String) (isDirectory : Bool) :
    Decides (p.matchParts parts isDirectory false)
      ((p.directoryOnly = false ∨ isDirectory = true) ∧ parts ≠ [] ∧
        SegmentsMatch p.refSegments parts) := by
  unfold Pattern.matchParts
  split
  · -- a directory-only pattern, and a path that is not a directory
    rename_i hdir
    refine Decides.of_pure (iff_of_false Bool.false_ne_true ?_)
    rintro ⟨hd | hd, -⟩ <;> simp_all
  · split
    · -- the empty path
      rename_i hempty
      exact Decides.of_pure (iff_of_false Bool.false_ne_true fun h =>
        h.2.1 (List.isEmpty_iff.mp hempty))
    · rename_i hdir hempty
      refine ((Glob.ofPattern p false).matchParts_decides rfl parts).congr ?_
      rw [stepsMatch_ofPattern_iff (Pattern.segments_ne_nil_of_ofLine hp)]
      have hd : p.directoryOnly = false ∨ isDirectory = true := by
        cases hpd : p.directoryOnly <;> cases isDirectory <;> simp_all
      exact ⟨fun h => ⟨hd, fun hn => hempty (List.isEmpty_iff.mpr hn), h⟩, fun h => h.2.2⟩

/-- The unanchored `*.o` matches an object file at any depth. -/
theorem Pattern.matchParts_decides_segmentsMatch_object :
    let p : Pattern :=
      { raw := "*.o", segments := [.glob "*.o" [.star, .lit ".o"]], anchored := false,
        directoryOnly := false, negated := false, sourceFile := none, lineNumber := 1 }
    Pattern.ofLine "*.o" none 1 = .ok (some p) ∧
      Decides (p.matchParts ["src", "main.o"] false false)
        ((p.directoryOnly = false ∨ false = true) ∧ ["src", "main.o"] ≠ [] ∧
          SegmentsMatch p.refSegments ["src", "main.o"]) := by
  intro p
  have hp : Pattern.ofLine "*.o" none 1 = .ok (some p) := by cbv
  exact ⟨hp, Pattern.matchParts_decides_segmentsMatch hp _ _⟩

end IgnoreRules
