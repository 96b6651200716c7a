import Mathlib
import IgnoreRules.Proofs.PathMatch

/-!
# The shortcuts of the matcher

The matcher of a pattern takes two kinds of shortcut (matcher.py:95–117 and 164–209). For one
component it compares a literal segment by equality, accepts every component for a lone star, and
asks for a suffix or a prefix for a star before or after literal text; any other glob goes through
the greedy walk over its atoms. For a whole path, a pattern made of a leading gap and component
globs only is matched by comparing its last components alone, instead of running the automaton.

The plain matcher takes neither shortcut: it runs the automaton over every component,
lowercased when case is ignored, with every component glob checked by the greedy walk.

The component shortcuts change nothing for a parsed pattern: the scanner never emits two literal
texts in a row, so lowercasing a literal segment as a whole or piece by piece is the same. The
path shortcut looks at fewer components than the automaton, and with case ignored the walk can
fail on a component it skips (`Atom.matchAll_decides_unless_long_uppercase`). So the optimised
matcher can answer where the plain one fails; wherever the plain one answers, both agree.

## Main statements

- `Scan.tokens_literalsJoined`: the tokens of a component never hold two literal texts in a row.
- `Segment.matchComponent_eq_matchAll`: for such tokens, the matcher of one component gives
  what the greedy walk gives.
- `Glob.run_eq_error_of_allPass_eq_error`: where the comparison of the last components fails,
  so does the automaton.
- `Pattern.matchParts_agrees_with_plain`: wherever the plain matcher of a parsed pattern
  answers, the matcher gives the same answer; without the path shortcut, or with case
  respected, the two are equal.
-/

namespace IgnoreRules

/-! ## Literal text is emitted in one piece -/

/-- No two literal texts stand next to each other. -/
def LiteralsJoined (ts : List Token) : Prop :=
  ts.IsChain fun a b => a.isLit = false ∨ b.isLit = false

namespace Scan

/-- What scanning keeps of the tokens emitted so far: no two literal texts in a row, and none
last, since the pending literal characters are still to come. -/
structure Emitted (tokens : List Token) : Prop where
  joined : LiteralsJoined tokens
  last : ∀ t ∈ tokens.getLast?, t.isLit = false

variable {emitted : List Token}

theorem Emitted.nil : Emitted [] :=
  ⟨List.IsChain.nil, by simp⟩

/-- Emitting the pending characters leaves no two literal texts in a row. -/
theorem Emitted.flush (h : Emitted emitted) (pending : List Char) :
    LiteralsJoined (Scan.flush pending emitted) := by
  unfold Scan.flush
  split
  · exact h.joined
  · -- the one literal text comes after a token that is not one
    rw [LiteralsJoined, List.isChain_append]
    exact ⟨h.joined, List.isChain_singleton _, fun x hx _ _ => Or.inl (h.last x hx)⟩

/-- Emitting the pending characters and then a token that is not literal text keeps
`Emitted`. -/
theorem Emitted.flush_append (h : Emitted emitted) (pending : List Char) {t : Token}
    (ht : t.isLit = false) : Emitted (Scan.flush pending emitted ++ [t]) where
  joined := by
    rw [LiteralsJoined, List.isChain_append]
    refine ⟨h.flush pending, List.isChain_singleton _, fun _ _ y hy => Or.inr ?_⟩
    rw [List.head?_cons, Option.mem_some_iff] at hy
    exact hy ▸ ht
  last t' ht' := by
    rw [List.getLast?_concat, Option.mem_some_iff] at ht'
    exact ht' ▸ ht

/-- A star joins a run of stars before it, or is emitted after the pending characters. -/
theorem Emitted.star (h : Emitted emitted) (pending : List Char) :
    Emitted (if (Scan.flush pending emitted).getLast? == some .star then Scan.flush pending emitted
      else Scan.flush pending emitted ++ [.star]) := by
  split
  · rename_i hstar
    -- a star last: nothing was pending, so these are the tokens emitted before
    have hpending : pending.isEmpty = true := by
      by_contra hne
      simp [Scan.flush, hne] at hstar
    rw [Scan.flush, if_pos hpending]
    exact h
  · exact h.flush_append pending rfl

theorem exists_of_bind_eq_ok {ε α β : Type} {m : Except ε α} {f : α → Except ε β} {b : β}
    (h : (m >>= f) = .ok b) : ∃ a, m = .ok a ∧ f a = .ok b := by
  cases m with
  | error e => cases h
  | ok a => exact ⟨a, rfl, h⟩

/-- Scanning from tokens that keep `Emitted` ends with no two literal texts in a row. Literal
characters wait in `pending` and are emitted in one piece, just before the next token that is
not literal text or at the end. -/
theorem run_literalsJoined {ts : List Token} (mode : Mode) (pending : List Char)
    (tokens : List Token) (cs : List Char) :
    Emitted tokens → run mode pending tokens cs = .ok ts → LiteralsJoined ts := by
  fun_induction run mode pending tokens cs with
  | case1 pending tokens =>
    intro h hrun
    rw [← Except.ok.inj hrun]
    exact h.flush pending
  | case2 => intro _ hrun; cases hrun
  | case3 => intro _ hrun; cases hrun
  | case4 _ _ _ _ _ _ ih => exact ih
  | case5 pending _ _ _ _ _ _ ih => exact fun h => ih (h.star pending)
  | case6 pending _ _ _ _ _ _ ih => exact fun h => ih (h.flush_append pending rfl)
  | case7 _ _ _ _ _ _ _ _ _ _ ih => exact ih
  | case8 _ _ _ _ _ _ _ _ _ _ ih => exact ih
  | case9 _ _ _ _ _ _ _ ih => exact ih
  | case10 _ _ _ _ _ _ _ _ ih => exact ih
  | case11 pending _ _ _ _ _ _ _ _ ih => exact fun h => ih (h.flush_append pending rfl)
  | case12 _ _ _ _ _ _ _ _ _ _ _ _ _ _ ih => exact ih
  | case13 => intro _ hrun; cases hrun
  | case14 => intro _ hrun; cases hrun
  | case15 _ _ _ _ _ _ _ _ _ _ _ _ ih =>
    -- an escaped item: the scan goes on after it
    intro h hrun
    obtain ⟨⟨range, after⟩, -, hrun⟩ := exists_of_bind_eq_ok hrun
    exact ih range after h hrun
  | case16 _ _ _ _ _ _ _ _ _ _ _ ih =>
    intro h hrun
    obtain ⟨⟨range, after⟩, -, hrun⟩ := exists_of_bind_eq_ok hrun
    exact ih range after h hrun

/-- The tokens of a component never hold two literal texts in a row. -/
theorem tokens_literalsJoined {piece : String} {ts : List Token} (h : tokens piece = .ok ts) :
    LiteralsJoined ts :=
  run_literalsJoined .text [] [] piece.toList Emitted.nil h

/-- A fold that keeps an invariant at every step keeps it to the end. -/
theorem foldlM_invariant {α β ε : Type} (P : α → Prop) {f : α → β → Except ε α}
    (hf : ∀ a b a', P a → f a b = .ok a' → P a') :
    ∀ {l : List β} {a a' : α}, P a → l.foldlM f a = .ok a' → P a'
  | [], a, a', ha, h => by
    rw [List.foldlM_nil] at h
    cases h
    exact ha
  | b :: l, a, a', ha, h => by
    rw [List.foldlM_cons] at h
    obtain ⟨a'', hstep, h⟩ := exists_of_bind_eq_ok h
    exact foldlM_invariant P hf (hf a b a'' ha hstep) h

/-- Every segment read from the pieces of a pattern has its literal text in one piece. -/
theorem segments_literalsJoined {pieces : List String} {segs : List Segment}
    (h : segments pieces = .ok segs) : ∀ s ∈ segs, LiteralsJoined s.tokens := by
  unfold segments at h
  refine foldlM_invariant (fun acc : List Segment => ∀ s ∈ acc, LiteralsJoined s.tokens) ?_
    (by simp) h
  intro acc piece acc' hacc hstep s hs
  split at hstep
  · -- an empty piece adds nothing
    cases hstep
    exact hacc s hs
  · split at hstep
    · -- a globstar has no tokens
      cases hstep
      split at hs
      · exact hacc s hs
      · rcases List.mem_append.mp hs with hs | hs
        · exact hacc s hs
        · rw [List.mem_singleton.mp hs]
          exact List.IsChain.nil
    · obtain ⟨ts, hts, hstep⟩ := exists_of_bind_eq_ok hstep
      cases hstep
      rcases List.mem_append.mp hs with hs | hs
      · exact hacc s hs
      · rw [List.mem_singleton.mp hs]
        exact tokens_literalsJoined hts

end Scan

/-- Every segment of a parsed pattern has its literal text in one piece. -/
theorem Pattern.literalsJoined_of_ofLine {line : String} {sourceFile : Option String}
    {lineNumber : Int} {p : Pattern}
    (h : Pattern.ofLine line sourceFile lineNumber = .ok (some p)) :
    ∀ s ∈ p.segments, LiteralsJoined s.tokens := by
  unfold Pattern.ofLine at h
  simp only at h
  split at h
  · cases h
  · split at h
    · cases h
    · split at h
      · cases h
      · cases h
      · rename_i segs _ hsegs
        cases h
        exact Scan.segments_literalsJoined hsegs

/-! ## The shortcuts for one component -/

namespace AtomsMatch

variable {ic : Bool} {l cs : List Char}

/-- The atoms of a literal text match that text alone. -/
theorem map_char_iff : AtomsMatch ic (l.map Atom.char) cs ↔ cs = l := by
  induction l generalizing cs with
  | nil => exact nil_left_iff
  | cons c l ih =>
    rw [List.map_cons, cons_iff Atom.noConfusion]
    constructor
    · rintro ⟨d, rest, rfl, hd, h⟩
      rw [ih.mp h]
      exact congrArg (· :: l) hd.symm
    · rintro rfl
      exact ⟨c, l, rfl, rfl, ih.mpr rfl⟩

theorem star_nil : AtomsMatch ic [.star] cs :=
  star_iff.mpr ⟨cs, [], (List.append_nil cs).symm, .nil⟩

/-- A star and a literal text match what ends with the text. -/
theorem star_map_char_iff : AtomsMatch ic (.star :: l.map Atom.char) cs ↔ l <:+ cs := by
  rw [star_iff]
  constructor
  · rintro ⟨w, rest, rfl, h⟩
    rw [map_char_iff.mp h]
    exact List.suffix_append w l
  · rintro ⟨w, rfl⟩
    exact ⟨w, l, rfl, map_char_iff.mpr rfl⟩

/-- A literal text and a star match what starts with the text. -/
theorem map_char_star_iff : AtomsMatch ic (l.map Atom.char ++ [.star]) cs ↔ l <+: cs := by
  rw [append_iff (by simp)]
  constructor
  · rintro ⟨W, rest, rfl, hW, -⟩
    rw [Atom.forall₂_map_char_iff.mp hW]
    exact List.prefix_append l rest
  · rintro ⟨rest, rfl⟩
    exact ⟨l, rest, rfl, Atom.forall₂_map_char_iff.mpr rfl, star_nil⟩

end AtomsMatch

/-- With no bracket class among the atoms, the greedy walk decides their language. -/
theorem Atom.matchAll_decides_of_no_class {A : List Atom} (hA : ∀ k, Atom.cls k ∉ A)
    (text : String) (ic : Bool) : Decides (Atom.matchAll A text ic) (AtomsMatch ic A text.toList) :=
  (Atom.matchAll_decidesUnless A text ic).decides fun _ ⟨k, _, hk, _⟩ => hA k hk

/-- A literal segment whose literal text is in one piece has no token or one literal text. -/
theorem Segment.eq_of_isLiteral {s : Segment} (hlit : s.isLiteral = true)
    (hs : LiteralsJoined s.tokens) :
    (∃ text, s = .glob text []) ∨ ∃ text t, s = .glob text [.lit t] := by
  cases s with
  | globstar => cases hlit
  | glob text ts =>
    simp only [Segment.isLiteral, List.all_eq_true] at hlit
    simp only [Segment.tokens] at hs
    rcases ts with _ | ⟨a, _ | ⟨b, rest⟩⟩
    · exact Or.inl ⟨text, rfl⟩
    · -- a single token is literal text
      cases a with
      | lit t => exact Or.inr ⟨text, t, rfl⟩
      | any | star | cls _ => exact absurd (hlit _ List.mem_cons_self) Bool.false_ne_true
    · -- two literal texts in a row
      have ha := hlit a List.mem_cons_self
      have hb := hlit b (List.mem_cons_of_mem _ List.mem_cons_self)
      rcases (List.isChain_cons_cons.mp hs).1 with h | h
      · exact absurd ha (by rw [h]; exact Bool.false_ne_true)
      · exact absurd hb (by rw [h]; exact Bool.false_ne_true)

theorem Text.lower_empty : Text.lower "" = "" := by
  simp [Text.lower, Text.lowerFrom]

/-- For tokens with their literal text in one piece, each shortcut of the matcher of one
component gives what the greedy walk over the atoms gives, with case respected or ignored. -/
theorem Segment.matchComponent_eq_matchAll {s : Segment} (hs : LiteralsJoined s.tokens)
    (ic : Bool) (part : String) :
    s.matchComponent ic part = Atom.matchAll (Atom.ofTokens s.tokens ic) part ic := by
  -- the atoms of a shortcut have no bracket class, so the walk decides their language
  have hwalk : ∀ {ts : List Token} {b : Bool}, (∀ k, Atom.cls k ∉ Atom.ofTokens ts ic) →
      (b = true ↔ AtomsMatch ic (Atom.ofTokens ts ic) part.toList) →
        pure b = Atom.matchAll (Atom.ofTokens ts ic) part ic :=
    fun hA hb => ((Atom.matchAll_decides_of_no_class hA part ic).eq_ok hb).symm
  by_cases hlit : s.isLiteral = true
  · -- a literal segment: no token, or one literal text
    simp only [Segment.matchComponent, hlit, ite_true]
    rcases Segment.eq_of_isLiteral hlit hs with ⟨text, rfl⟩ | ⟨text, t, rfl⟩
    · refine hwalk (by simp [Atom.ofTokens, Segment.tokens]) ?_
      simp only [Segment.tokens, Atom.ofTokens, List.flatMap_nil, AtomsMatch.nil_left_iff,
        Segment.literalText_glob_nil, Text.lower_empty, ite_self, beq_iff_eq,
        ← String.toList_inj, String.toList_empty]
    · refine hwalk (by simp [Atom.ofTokens, Segment.tokens]) ?_
      simp only [Segment.tokens, Atom.ofTokens, List.flatMap_cons, List.flatMap_nil,
        List.append_nil, AtomsMatch.map_char_iff, Segment.literalText_glob_cons_lit,
        Segment.literalText_glob_nil, String.append_empty, beq_iff_eq, String.toList_inj]
  · simp only [Segment.matchComponent, hlit, Bool.false_eq_true, ite_false]
    split
    · -- a lone star
      rename_i hts
      rw [hts]
      exact hwalk (by simp [Atom.ofTokens]) (iff_of_true rfl AtomsMatch.star_nil)
    · -- a star and a suffix
      rename_i t hts
      rw [hts]
      refine hwalk (by simp [Atom.ofTokens]) ?_
      simp only [Atom.ofTokens, List.flatMap_cons, List.flatMap_nil, List.append_nil,
        List.singleton_append, AtomsMatch.star_map_char_iff]
      simp [← String.endsWith_toSlice]
    · -- a prefix and a star
      rename_i t hts
      rw [hts]
      refine hwalk (by simp [Atom.ofTokens]) ?_
      simp only [Atom.ofTokens, List.flatMap_cons, List.flatMap_nil, List.append_nil,
        AtomsMatch.map_char_star_iff]
      simp
    · -- any other glob: the greedy walk itself
      rfl

/-! ## The plain matcher -/

namespace Glob

/-- The step of the automaton, with a given check of one component against a step. -/
def advanceBy (g : Glob) (check : Step → String → Except MatchError Bool) (part : String) :
    List Nat → Except MatchError (List Nat)
  | [] => pure []
  | s :: rest => do
    let here ← match g.steps[s]? with
      | none => pure []
      | some .gap => pure [s]
      | some step => do
        if ← check step part then pure [s + 1] else pure []
    let later ← g.advanceBy check part rest
    pure (here.foldl (fun a t => insertSorted t a) later)

/-- The automaton over the components, with a given check of one component against a step. -/
def runBy (g : Glob) (check : Step → String → Except MatchError Bool) :
    List Nat → List String → Except MatchError Bool
  | states, [] => pure (states.contains g.steps.size)
  | states, part :: parts => do
    let next ← g.advanceBy check part states
    if next.isEmpty then pure false else g.runBy check (g.closure next) parts

/-- One component against a step with no shortcut: a component glob by the greedy walk over its
atoms. -/
def passesPlain (g : Glob) : Step → String → Except MatchError Bool
  | .gap, _ => pure false
  | .anyOne, _ => pure true
  | .glob s, part => Atom.matchAll (Atom.ofTokens s.tokens g.ignoreCase) part g.ignoreCase

end Glob

/-- The plain matcher of a pattern: the directory-only rule and the empty path as in
`Pattern.matchParts`, then the automaton over every component, lowercased when case is ignored,
with every component glob checked by the greedy walk. -/
def Pattern.matchPartsPlain (p : Pattern) (parts : List String) (isDirectory ignoreCase : Bool) :
    Except MatchError Bool :=
  if p.directoryOnly && !isDirectory then pure false
  else if parts.isEmpty then pure false
  else
    let g := Glob.ofPattern p ignoreCase
    g.runBy g.passesPlain (g.closure [0])
      (parts.map fun t => if ignoreCase then Text.lower t else t)

/-- The components the matcher of one component answers yes to. -/
def Segment.Passes (ic : Bool) (s : Segment) (part : String) : Prop :=
  s.matchComponent ic part = .ok true

namespace Glob

variable (g : Glob)

/-- The automaton of the matcher is the automaton with its own check. -/
theorem advance_eq_advanceBy (part : String) :
    ∀ S, g.advance part S = g.advanceBy g.passes part S
  | [] => rfl
  | s :: S => by
    rw [advance, advanceBy]
    -- once the step at `s` is known, the two differ only in the recursive call
    cases g.steps[s]? with
    | none =>
      dsimp only
      rw [advance_eq_advanceBy part S]
    | some step =>
      cases step <;> dsimp only <;> rw [advance_eq_advanceBy part S]

theorem run_eq_runBy (parts : List String) :
    ∀ S, g.run S parts = g.runBy g.passes S parts := by
  induction parts with
  | nil => exact fun _ => rfl
  | cons part parts ih =>
    intro S
    simp only [run, runBy, advance_eq_advanceBy, ih]

/-- Two checks that agree on every step give the same step of the automaton. -/
theorem advanceBy_congr {c₁ c₂ : Step → String → Except MatchError Bool} {part : String}
    (h : ∀ (s : Nat) step, g.steps[s]? = some step → c₁ step part = c₂ step part) :
    ∀ S, g.advanceBy c₁ part S = g.advanceBy c₂ part S
  | [] => rfl
  | s :: S => by
    rw [advanceBy, advanceBy, advanceBy_congr h S]
    cases hs : g.steps[s]? with
    | none => rfl
    | some step =>
      cases step with
      | gap => rfl
      | anyOne =>
        dsimp only
        rw [h s _ hs]
      | glob seg =>
        dsimp only
        rw [h s _ hs]

theorem runBy_congr {c₁ c₂ : Step → String → Except MatchError Bool}
    (h : ∀ part (s : Nat) step, g.steps[s]? = some step → c₁ step part = c₂ step part)
    (parts : List String) : ∀ S, g.runBy c₁ S parts = g.runBy c₂ S parts := by
  induction parts with
  | nil => exact fun _ => rfl
  | cons part parts ih =>
    intro S
    simp only [runBy, g.advanceBy_congr (h part), ih]

/-- Every component glob among the steps of some segments is one of them. -/
theorem mem_of_glob_mem_stepsOfSegments :
    ∀ {segs : List Segment} {seg : Segment}, Step.glob seg ∈ stepsOfSegments segs → seg ∈ segs
  | [], _, h => by simp [stepsOfSegments] at h
  | [s], seg, h => by
    cases s <;> simp_all [stepsOfSegments, stepsOf]
  | s :: t :: rest, seg, h => by
    have h' : Step.glob seg ∈ stepsOf false s ++ stepsOfSegments (t :: rest) := h
    rcases List.mem_append.mp h' with h | h
    · cases s <;> simp_all [stepsOf]
    · exact List.mem_cons_of_mem s (mem_of_glob_mem_stepsOfSegments h)

theorem mem_segments_of_steps_ofPattern {p : Pattern} {ic : Bool} {s : Nat} {seg : Segment}
    (h : (ofPattern p ic).steps[s]? = some (.glob seg)) : seg ∈ p.segments := by
  have hmem : Step.glob seg ∈ (ofPattern p ic).steps.toList :=
    Array.mem_toList_iff.mpr (Array.mem_of_getElem? h)
  simp only [ofPattern, List.toList_toArray, List.mem_append] at hmem
  rcases hmem with hlead | hsteps
  · split at hlead <;> simp at hlead
  · exact mem_of_glob_mem_stepsOfSegments hsteps

/-- For the segments of a parsed pattern, the plain check of a step is the matcher's check. -/
theorem passesPlain_eq_passes {p : Pattern} (hp : ∀ seg ∈ p.segments, LiteralsJoined seg.tokens)
    (ic : Bool) (part : String) {s : Nat} {step : Step}
    (hs : (ofPattern p ic).steps[s]? = some step) :
    (ofPattern p ic).passesPlain step part = (ofPattern p ic).passes step part := by
  cases step with
  | gap => rfl
  | anyOne => rfl
  | glob seg =>
    exact (seg.matchComponent_eq_matchAll (hp seg (mem_segments_of_steps_ofPattern hs)) ic
      part).symm

/-! ## The comparison of the last components -/

/-- The check of a step decides whether the matcher answers yes to the component. -/
theorem passes_decidesUnless_passes (step : Step) (part : String) :
    DecidesUnless (g.passes step part) (step.Accepts (Segment.Passes g.ignoreCase) part)
      fun _ => True :=
  g.passes_decidesUnless (fun _ _ => DecidesUnless.of_eq_ok_true_iff Iff.rfl fun _ _ => trivial)
    step part

/-- Where the check at a position of the set fails, `advance` fails. -/
theorem advance_eq_error_of_mem {part : String} {s : Nat} {e : MatchError}
    (he : g.reachFrom part s = .error e) :
    ∀ {S : List Nat}, s ∈ S → ∃ e', g.advance part S = .error e'
  | s' :: S, hs => by
    rw [advance_cons]
    rcases List.mem_cons.mp hs with rfl | hs
    · exact ⟨e, by rw [he]; rfl⟩
    · cases g.reachFrom part s' with
      | error e' => exact ⟨e', rfl⟩
      | ok here =>
        obtain ⟨e', he'⟩ := advance_eq_error_of_mem he hs
        exact ⟨e', by rw [he']; rfl⟩

/-- After one component, a set with no position left refuses the path; otherwise the run goes on
from the closure of the positions reached. -/
theorem run_cons_of_mem {S next : List Nat} {part : String} {parts : List String} {t : Nat}
    (hnext : g.advance part S = .ok next) (ht : t ∈ next) :
    g.run S (part :: parts) = g.run (g.closure next) parts := by
  rw [run, hnext]
  show (if next.isEmpty = true then pure false else g.run (g.closure next) parts) = _
  rw [if_neg (by rw [List.isEmpty_iff]; exact List.ne_nil_of_mem ht)]

theorem closed_closure_of_advance {S next : List Nat} {part : String}
    (hmem : ∀ t, t ∈ next ↔ ∃ s ∈ S, g.Moves (Segment.Passes g.ignoreCase) part s t) :
    g.Closed (g.closure next) :=
  closed_closure fun t ht => by
    obtain ⟨s, -, hmove⟩ := (hmem t).mp ht
    exact le_size_of_moves hmove

theorem mem_closure_self {S : List Nat} {s : Nat} (hs : s ∈ S) : s ∈ g.closure S :=
  mem_closure.mpr ⟨s, hs, Nat.le_refl s, fun _ h₁ h₂ => absurd h₂ (by omega)⟩

/-- A gap at the start keeps the run going: over any first components, the run either fails or
reaches a closed set that still holds the start. -/
theorem run_append_of_gap_zero (h0 : g.steps[0]? = some .gap) :
    ∀ (pre : List String) {S : List Nat} (rest : List String), g.Closed S → 0 ∈ S →
      (∃ e, g.run S (pre ++ rest) = .error e) ∨
        ∃ S', g.Closed S' ∧ 0 ∈ S' ∧ g.run S (pre ++ rest) = g.run S' rest
  | [], S, rest, hS, h0S => Or.inr ⟨S, hS, h0S, rfl⟩
  | part :: pre, S, rest, hS, h0S => by
    rcases g.advance_spec (g.passes_decidesUnless_passes · part) S with
      ⟨next, hnext, hmem⟩ | ⟨e, he, -⟩
    · -- the gap at the start takes the component and stays
      have h0next : 0 ∈ next := (hmem 0).mpr ⟨0, h0S, Or.inl ⟨h0, rfl⟩⟩
      rw [List.cons_append, g.run_cons_of_mem hnext h0next]
      exact run_append_of_gap_zero h0 pre rest (g.closed_closure_of_advance hmem)
        (g.mem_closure_self h0next)
    · exact Or.inl ⟨e, by rw [List.cons_append, run, he]; rfl⟩

/-- Following component globs from a position of the set, one component each, the run fails
where the comparison of those components with the globs fails. -/
theorem run_eq_error_of_allPass_eq_error (rest : List String) :
    ∀ (segs : List Segment) (parts : List String) {S : List Nat} {s : Nat} {e : MatchError},
      parts.length = segs.length → g.Closed S → s ∈ S →
      (∃ more, g.steps.toList.drop s = segs.map Step.glob ++ more) →
      g.allPass (segs.zip parts) = .error e → ∃ e', g.run S (parts ++ rest) = .error e'
  | [], _, _, _, _, _, _, _, _, h => by cases h
  | seg :: segs, part :: parts, S, s, e, hlen, hS, hs, ⟨more, hdrop⟩, h => by
    have hstep : g.steps[s]? = some (.glob seg) := by
      rw [← Array.getElem?_toList, ← List.head?_drop, hdrop]
      rfl
    have hdrop' : g.steps.toList.drop (s + 1) = segs.map Step.glob ++ more := by
      rw [← List.tail_drop, hdrop]
      rfl
    rw [List.zip_cons_cons, allPass] at h
    cases hm : seg.matchComponent g.ignoreCase part with
    | error e₀ =>
      -- the check at `s` fails, and the automaton makes it too
      have hreach : g.reachFrom part s = .error e₀ := by
        rw [reachFrom, hstep]
        show (g.passes (.glob seg) part >>= _) = _
        rw [passes, hm]
        rfl
      obtain ⟨e', he'⟩ := g.advance_eq_error_of_mem hreach hs
      exact ⟨e', by rw [List.cons_append, run, he']; rfl⟩
    | ok b =>
      rw [hm] at h
      cases b with
      | false => cases h
      | true =>
        -- the glob at `s` takes the component: the run goes on from `s + 1`
        rcases g.advance_spec (g.passes_decidesUnless_passes · part) S with
          ⟨next, hnext, hmem⟩ | ⟨e', he', -⟩
        · have hnext1 : s + 1 ∈ next :=
            (hmem (s + 1)).mpr ⟨s, hs, Or.inr ⟨.glob seg, hstep, hm, rfl⟩⟩
          rw [List.cons_append, g.run_cons_of_mem hnext hnext1]
          exact run_eq_error_of_allPass_eq_error rest segs parts
            (Nat.succ.inj hlen) (g.closed_closure_of_advance hmem) (g.mem_closure_self hnext1)
            ⟨more, hdrop'⟩ h
        · exact ⟨e', by rw [List.cons_append, run, he']; rfl⟩

/-- Where the matcher fails, the automaton over every component fails too: the shortcut compares
the last components with the component globs, and the automaton, kept going by the leading gap,
makes the same comparisons when it reaches them. -/
theorem run_eq_error_of_matchParts_eq_error {parts : List String} {e : MatchError}
    (h : g.matchParts parts = .error e) :
    ∃ e', g.run (g.closure [0])
      (parts.map fun t => if g.ignoreCase then Text.lower t else t) = .error e' := by
  unfold matchParts at h
  cases hsuf : g.suffixSteps with
  | none =>
    rw [hsuf] at h
    exact ⟨e, h⟩
  | some segs =>
    rw [hsuf] at h
    simp only at h
    split at h
    · cases h
    · rename_i hlen
      have hsteps := suffixSteps_eq_some hsuf
      have h0 : g.steps[0]? = some .gap := by
        rw [← Array.getElem?_toList, hsteps]
        rfl
      -- the components before the last ones, then the last ones
      set fold := fun t => if g.ignoreCase then Text.lower t else t
      set n := parts.length - segs.length
      have hsplit : parts.map fold = (parts.map fold).take n ++ (parts.drop n).map fold := by
        rw [List.map_drop, List.take_append_drop]
      rcases g.run_append_of_gap_zero h0 ((parts.map fold).take n) ((parts.drop n).map fold)
          closed_closure_zero (g.mem_closure_self List.mem_cons_self) with
        ⟨e', he'⟩ | ⟨S', hS', h0S', hrun⟩
      · exact ⟨e', by rw [hsplit]; exact he'⟩
      · -- the last components, from the first component glob
        have hlen' : ((parts.drop n).map fold).length = segs.length := by
          simp only [List.length_map, List.length_drop, n]
          omega
        obtain ⟨e', he'⟩ := g.run_eq_error_of_allPass_eq_error [] segs ((parts.drop n).map fold)
          hlen' hS' (hS'.succ_mem 0 h0S' h0) ⟨[], by rw [hsteps]; simp⟩ h
        exact ⟨e', by rw [hsplit, hrun, ← List.append_nil ((parts.drop n).map fold)]; exact he'⟩

/-- Wherever the automaton over every component answers, the matcher gives the same answer;
without the shortcut for the last components, the matcher is that automaton. -/
theorem matchParts_agrees_with_run (parts : List String) :
    (∀ b, g.run (g.closure [0]) (parts.map fun t => if g.ignoreCase then Text.lower t else t) =
        .ok b → g.matchParts parts = .ok b) ∧
      (g.suffixSteps = none → g.matchParts parts =
        g.run (g.closure [0]) (parts.map fun t => if g.ignoreCase then Text.lower t else t)) := by
  constructor
  · intro b hb
    -- both decide whether the matcher of each component answers yes along the steps
    have hopt : DecidesUnless (g.matchParts parts)
        (StepsMatch (Segment.Passes g.ignoreCase) g.steps.toList
          (parts.map fun t => if g.ignoreCase then Text.lower t else t)) fun _ => True :=
      g.matchParts_decidesUnless
        (fun _ _ => DecidesUnless.of_eq_ok_true_iff Iff.rfl fun _ _ => trivial) parts
    have hrun := (g.run_decidesUnless g.passes_decidesUnless_passes
      (parts.map fun t => if g.ignoreCase then Text.lower t else t) closed_closure_zero).congr
      exists_closure_zero_iff
    rcases hopt with hopt | ⟨e, he, -⟩
    · rcases hrun with ⟨b', hb', hiff⟩ | ⟨e, he, -⟩
      · rw [hb] at hb'
        cases hb'
        exact hopt.eq_ok hiff
      · rw [hb] at he
        cases he
    · obtain ⟨e', he'⟩ := g.run_eq_error_of_matchParts_eq_error he
      rw [hb] at he'
      cases he'
  · intro hsuf
    unfold matchParts
    rw [hsuf]

end Glob

/-- Wherever the plain matcher of a parsed pattern answers, the matcher gives the same answer:
its shortcuts for one component change nothing, and its comparison of the last components fails
only where the automaton over every component fails too. Without that shortcut, or with case
respected, the two are equal. -/
theorem Pattern.matchParts_agrees_with_plain {line : String} {sourceFile : Option String}
    {lineNumber : Int} {p : Pattern}
    (hp : Pattern.ofLine line sourceFile lineNumber = .ok (some p))
    (parts : List String) (isDirectory ignoreCase : Bool) :
    (∀ b, p.matchPartsPlain parts isDirectory ignoreCase = .ok b →
      p.matchParts parts isDirectory ignoreCase = .ok b) ∧
    ((Glob.ofPattern p ignoreCase).suffixSteps = none ∨ ignoreCase = false →
      p.matchParts parts isDirectory ignoreCase =
        p.matchPartsPlain parts isDirectory ignoreCase) := by
  -- the plain matcher runs the matcher's own automaton
  have hplain : ∀ parts', (Glob.ofPattern p ignoreCase).runBy
      (Glob.ofPattern p ignoreCase).passesPlain ((Glob.ofPattern p ignoreCase).closure [0]) parts' =
      (Glob.ofPattern p ignoreCase).run ((Glob.ofPattern p ignoreCase).closure [0]) parts' :=
    fun parts' => by
      rw [Glob.run_eq_runBy]
      exact Glob.runBy_congr _ (fun part _ _ hs =>
        Glob.passesPlain_eq_passes (Pattern.literalsJoined_of_ofLine hp) ignoreCase part hs)
        parts' _
  have hagree := (Glob.ofPattern p ignoreCase).matchParts_agrees_with_run parts
  have hic : (Glob.ofPattern p ignoreCase).ignoreCase = ignoreCase := rfl
  rw [hic] at hagree
  unfold Pattern.matchParts Pattern.matchPartsPlain
  split
  · exact ⟨fun _ h => h, fun _ => rfl⟩
  · split
    · exact ⟨fun _ h => h, fun _ => rfl⟩
    · simp only [hplain]
      refine ⟨hagree.1, ?_⟩
      rintro (hsuf | hfalse)
      · exact hagree.2 hsuf
      · -- with case respected the automaton never fails
        obtain ⟨b, hb, -⟩ := ((Glob.ofPattern p ignoreCase).run_decidesUnless
          (Glob.passes_decidesUnless (Glob.matchComponent_decidesUnless_matches (hic.trans hfalse)))
          _ Glob.closed_closure_zero).decides fun _ h => h
        rw [hagree.1 b hb, hb]

/-- The unanchored `*.o`, with case ignored, against a nested object file. -/
theorem Pattern.matchParts_agrees_with_plain_object :
    let p : Pattern :=
      { raw := "*.o", segments := [.glob "*.o" [.star, .lit ".o"]], anchored := false,
        directoryOnly := false, negated := false, sourceFile := none, lineNumber := 1 }
    Pattern.ofLine "*.o" none 1 = .ok (some p) ∧
      (∀ b, p.matchPartsPlain ["src", "MAIN.O"] false true = .ok b →
        p.matchParts ["src", "MAIN.O"] false true = .ok b) ∧
      ((Glob.ofPattern p true).suffixSteps = none ∨ true = false →
        p.matchParts ["src", "MAIN.O"] false true =
          p.matchPartsPlain ["src", "MAIN.O"] false true) := by
  intro p
  have hp : Pattern.ofLine "*.o" none 1 = .ok (some p) := by cbv
  exact ⟨hp, Pattern.matchParts_agrees_with_plain hp _ _ _⟩

end IgnoreRules
