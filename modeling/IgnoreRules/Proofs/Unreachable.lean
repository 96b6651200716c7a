import Mathlib
import IgnoreRules.Inspect
import IgnoreRules.Proofs.Caching
import IgnoreRules.Proofs.CaseFolding
import IgnoreRules.Proofs.WellFormed

/-!
# Negations that cannot take effect

The inspection of a rule file (inspections.py:74–104) warns about an anchored negation `N` whose
leading segments are literal and name a directory that an earlier entry excludes: it walks the
directories that the leading literal segments name, shallowest first, and at the first one that
some earlier entry matches, the most recent such entry decides. Its docstring, and section 10 of
the specification, say that such a negation can never re-include anything: every path below the
rule file's directory that `N` matches stays ignored.

The inspection checks less than that, and warns about negations that do take effect:

- it never looks at the entries after `N`: in `build/`, `!build/keep.txt`, `!build/` the second
  line is warned about, yet the third brings `build` back and the second then re-includes
  `build/keep.txt` (`flagged_negation_reincluded`);
- it names each directory by the text of the segments, escapes kept, where the matcher reads the
  text with escapes removed: after `a\\b/`, the negation `!/a\b/x` is warned about for the
  directory `a\b`, yet it matches below `ab`, which nothing excludes (`flagged_negation_escaped`).

What a warning does guarantee is `flagged_negation_has_no_effect`: when the file is the only rule
file that judges the path, the leading literal segments of `N` have no escapes, no later negation
matches one of the directories they name, and, with case ignored, their characters fold one to one
(so that no pattern fails on them: `[[:cntrl:]]` fails on `ß`, whose uppercase form is `SS`),
every path that `N` matches is ignored.

The proof follows the resolver's walk (resolver.py:95–135). The walk reaches the warned directory
or an ignored one before it: on each directory of the walk, the last matching pattern comes from
after `N` (and then it is no negation), or else `N` does not match (it has more segments than the
directory has components), and the earlier patterns, searched nearest first, answer as they did
for the inspection. With case ignored a directory of the path and the one the inspection named
differ in case only, and matching sees components only through their lowercase forms.

## Main statements

- `Inspect.blockedBy_eq_some`: what the inspection found when it warns.
- `Pattern.matchParts_congr`: matching sees components only through their folded forms.
- `WarnedPrefix`, `judge_ignored_of_run`: what the walk over the directories of a warned negation
  relies on, and that the walk then ignores every path the negation matches.
- `flagged_negation_has_no_effect`: under those conditions a warned negation has no effect.
- `flagged_negation_reincluded`, `flagged_negation_escaped`: warnings about negations that take
  effect.
-/

namespace IgnoreRules

/-! ## What the inspection found -/

namespace Inspect

/-- One step of the search for the first pattern that matches a directory. -/
def matchStep (parts : List String) (ic : Bool) (q : Pattern) :
    Except MatchError (Option Pattern) := do
  let b ← q.matchParts parts true ic
  pure (if b = true then some q else none)

theorem matchStep_of_eq_ok {parts : List String} {ic : Bool} {q : Pattern} {b : Bool}
    (h : q.matchParts parts true ic = .ok b) :
    matchStep parts ic q = .ok (if b = true then some q else none) := by
  rw [matchStep, h]
  rfl

/-- The search of the inspection through the earlier entries, nearest first, is the search
for the first entry that matches the directory. -/
theorem firstMatching_eq_findSomeM (parts : List String) (ic : Bool) :
    ∀ pats : List Pattern, firstMatching parts ic pats = pats.findSomeM? (matchStep parts ic)
  | [] => rfl
  | q :: rest => by
    rw [firstMatching, List.findSomeM?_cons, firstMatching_eq_findSomeM parts ic rest, matchStep]
    cases q.matchParts parts true ic with
    | error e => rfl
    | ok b => cases b <;> rfl

/-- A warning about a negation: its leading segments `lits` are literal and stand before at
least one more segment; no earlier entry matches the directories that the shorter runs of them
name, and the most recent earlier entry that matches the directory they all name is no
negation. The warning carries the negation's line. -/
theorem blockedBy_eq_some {p : Pattern} {earlier : List Pattern} {ic : Bool} :
    ∀ {above : List String} {segs : List Segment} {d : Diagnostic},
      blockedBy p earlier ic above segs = .ok (some d) →
      ∃ lits rest, segs = lits ++ rest ∧ lits ≠ [] ∧ rest ≠ [] ∧
        (∀ s ∈ lits, s.isLiteral = true) ∧
        (∀ m, 0 < m → m < lits.length →
          firstMatching (above ++ (lits.take m).map Segment.text) ic earlier = .ok none) ∧
        (∃ q, firstMatching (above ++ lits.map Segment.text) ic earlier = .ok (some q) ∧
          q.negated = false) ∧
        d.line = p.lineNumber
  | _, [], _, h => by cases h
  | _, [_], _, h => by cases h
  | above, s :: s' :: rest, d, h => by
    simp only [blockedBy] at h
    split at h
    · cases h
    · rename_i hlit
      have hs : s.isLiteral = true := by simpa using hlit
      obtain ⟨found, hfound, h⟩ := Scan.exists_of_bind_eq_ok h
      cases found with
      | some q =>
        -- the directory named by `s` decides
        have hq : q.negated = false := by
          cases hneg : q.negated
          · rfl
          · simp only [hneg, if_true] at h
            cases h
        simp only [hq, Bool.false_eq_true, if_false, pure, Except.pure, Except.ok.injEq,
          Option.some.injEq] at h
        subst h
        exact ⟨[s], s' :: rest, rfl, List.cons_ne_nil _ _, List.cons_ne_nil _ _,
          by simpa using hs, fun m hm hlt => by simp at hlt; omega, ⟨q, hfound, hq⟩, rfl⟩
      | none =>
        -- no earlier entry matches it: the walk goes one directory deeper
        simp only at h
        obtain ⟨lits, rest', hsegs, hne, hrest, hlits, hnone, hsome, hline⟩ :=
          blockedBy_eq_some h
        refine ⟨s :: lits, rest', by rw [hsegs, List.cons_append], List.cons_ne_nil _ _, hrest,
          ?_, fun m hm hlt => ?_, ?_, hline⟩
        · intro t ht
          rcases List.mem_cons.mp ht with rfl | ht
          · exact hs
          · exact hlits t ht
        · obtain ⟨m, rfl⟩ : ∃ m', m = m' + 1 := ⟨m - 1, by omega⟩
          rcases Nat.eq_zero_or_pos m with rfl | hm'
          · simpa using hfound
          · have := hnone m hm' (by simpa using hlt)
            simpa using this
        · simpa using hsome

/-- Every result of a map that succeeds comes from an element. -/
theorem exists_mem_of_mapM_eq_ok {ε α β : Type} {f : α → Except ε β} :
    ∀ {l : List α} {ys : List β}, l.mapM f = .ok ys → ∀ y ∈ ys, ∃ x ∈ l, f x = .ok y
  | [], ys, h, y, hy => by
    rw [List.mapM_nil] at h
    cases h
    cases hy
  | x :: l, ys, h, y, hy => by
    rw [List.mapM_cons] at h
    obtain ⟨b, hb, h⟩ := Scan.exists_of_bind_eq_ok h
    obtain ⟨bs, hbs, h⟩ := Scan.exists_of_bind_eq_ok h
    cases h
    rcases List.mem_cons.mp hy with rfl | hy
    · exact ⟨x, List.mem_cons_self, hb⟩
    · obtain ⟨x', hx', hfx⟩ := exists_mem_of_mapM_eq_ok hbs y hy
      exact ⟨x', List.mem_cons_of_mem x hx', hfx⟩

/-- Each warning about unreachable negations comes from the walk of one anchored negation of
the list over the entries before it. -/
theorem mem_unreachableNegations {patterns : List Pattern} {ic : Bool} {ds : List Diagnostic}
    (h : unreachableNegations patterns ic = .ok ds) {d : Diagnostic} (hd : d ∈ ds) :
    ∃ i N, patterns[i]? = some N ∧ N.negated = true ∧ N.anchored = true ∧
      blockedBy N (patterns.take i).reverse ic [] N.segments = .ok (some d) := by
  obtain ⟨found, hfound, hds⟩ := Scan.exists_of_bind_eq_ok h
  cases hds
  obtain ⟨⟨N, i⟩, hx, hfx⟩ :=
    exists_mem_of_mapM_eq_ok hfound (some d) (List.reduceOption_mem_iff.mp hd)
  -- the entry comes with its own index
  obtain ⟨j, hj, hget⟩ := List.getElem_of_mem hx
  simp only [List.getElem_zip, List.getElem_range, Prod.mk.injEq] at hget
  obtain ⟨rfl, rfl⟩ := hget
  simp only at hfx
  split at hfx
  · rename_i hna
    simp only [Bool.and_eq_true] at hna
    exact ⟨j, _, List.getElem?_eq_getElem _, hna.1, hna.2, hfx⟩
  · cases hfx

end Inspect

/-! ## Matching sees components folded -/

namespace Glob

/-- The matcher sees the components of a path only through their folded forms: lowercased when
case is ignored. -/
theorem matchParts_congr (g : Glob) {parts parts' : List String}
    (h : parts.map (fun t => if g.ignoreCase then Text.lower t else t) =
      parts'.map (fun t => if g.ignoreCase then Text.lower t else t)) :
    g.matchParts parts = g.matchParts parts' := by
  have hlen : parts.length = parts'.length := by simpa using congrArg List.length h
  unfold matchParts
  simp only [List.map_drop, h, hlen]

theorem steps_ofPattern_of_anchored {p : Pattern} (h : p.anchored = true) (ic : Bool) :
    (ofPattern p ic).steps.toList = stepsOfSegments p.segments := by
  simp [ofPattern, h]

/-- Literal segments before other segments are one component glob each. -/
theorem stepsOfSegments_append {lits rest : List Segment}
    (hlits : ∀ s ∈ lits, s.isLiteral = true) (hrest : rest ≠ []) :
    stepsOfSegments (lits ++ rest) = lits.map Step.glob ++ stepsOfSegments rest := by
  induction lits with
  | nil => rfl
  | cons s lits ih =>
    have hs := hlits s List.mem_cons_self
    obtain ⟨t, ts, hts⟩ := List.exists_cons_of_ne_nil (List.append_ne_nil_of_right_ne_nil lits hrest)
    rw [List.cons_append, hts, stepsOfSegments, ← hts,
      ih fun t ht => hlits t (List.mem_cons_of_mem s ht)]
    · cases s with
      | globstar => cases hs
      | glob text tokens => rfl
    · exact List.cons_ne_nil t ts

/-- The steps of a non-empty list of segments hold a step that takes a component: one of the
last segment's. -/
theorem exists_consuming_step : ∀ {segs : List Segment}, segs ≠ [] →
    ∃ st ∈ stepsOfSegments segs, st ≠ .gap
  | [], h => absurd rfl h
  | [.globstar], _ => ⟨.anyOne, by simp [stepsOfSegments, stepsOf], Step.noConfusion⟩
  | [.glob text tokens], _ => ⟨.glob (.glob text tokens), by simp [stepsOfSegments, stepsOf],
      Step.noConfusion⟩
  | s :: t :: ts, _ => by
    obtain ⟨st, hst, hne⟩ := exists_consuming_step (List.cons_ne_nil t ts)
    exact ⟨st, by simp [stepsOfSegments, hst], hne⟩

end Glob

namespace StepsMatch

variable {comp : Segment → String → Prop}

/-- Component globs before other steps take one component each. -/
theorem of_map_glob_append : ∀ {l : List Segment} {steps : List Step} {parts : List String},
    StepsMatch comp (l.map Step.glob ++ steps) parts →
      ∃ ys zs, parts = ys ++ zs ∧ List.Forall₂ comp l ys ∧ StepsMatch comp steps zs
  | [], _, _, h => ⟨[], _, rfl, .nil, h⟩
  | s :: l, steps, parts, h => by
    rw [List.map_cons, List.cons_append] at h
    obtain ⟨part, rest, rfl, hpart, h⟩ := (cons_iff (Step.glob_ne_gap s)).mp h
    obtain ⟨ys, zs, rfl, hys, hzs⟩ := of_map_glob_append h
    exact ⟨part :: ys, zs, rfl, .cons hpart hys, hzs⟩

theorem ne_nil_of_mem {steps : List Step} {parts : List String} (h : StepsMatch comp steps parts)
    {st : Step} (hst : st ∈ steps) (hne : st ≠ .gap) : parts ≠ [] := by
  rintro rfl
  exact hne (nil_right_iff.mp h st hst)

end StepsMatch

/-- A literal segment passes exactly the component equal to its folded text. -/
theorem Segment.passes_of_isLiteral {s : Segment} (hs : s.isLiteral = true) {ic : Bool}
    {part : String} :
    Segment.Passes ic s part ↔ part = if ic then Text.lower s.literalText else s.literalText := by
  simp [Segment.Passes, Segment.matchComponent, hs, pure, Except.pure]

theorem forall₂_passes_literal {ic : Bool} :
    ∀ {lits : List Segment} {ys : List String},
      (∀ s ∈ lits, s.isLiteral = true ∧ s.literalText = s.text) →
      List.Forall₂ (Segment.Passes ic) lits ys →
        ys = (lits.map Segment.text).map fun t => if ic then Text.lower t else t
  | [], [], _, .nil => rfl
  | s :: lits, y :: ys, hlits, .cons hy hys => by
    obtain ⟨hlit, htext⟩ := hlits s List.mem_cons_self
    rw [forall₂_passes_literal (fun t ht => hlits t (List.mem_cons_of_mem s ht)) hys,
      (Segment.passes_of_isLiteral hlit).mp hy, htext]
    rfl

theorem Pattern.matchParts_congr (p : Pattern) {ic : Bool} {parts parts' : List String}
    (h : parts.map (fun t => if ic then Text.lower t else t) =
      parts'.map (fun t => if ic then Text.lower t else t)) (isDirectory : Bool) :
    p.matchParts parts isDirectory ic = p.matchParts parts' isDirectory ic := by
  have hlen : parts.length = parts'.length := by simpa using congrArg List.length h
  have hempty : parts.isEmpty = parts'.isEmpty := by
    cases parts <;> cases parts' <;> simp_all
  unfold Pattern.matchParts
  rw [hempty, (Glob.ofPattern p ic).matchParts_congr h]

/-- Matching a parsed pattern fails nowhere with case respected, and with case ignored nowhere
on components whose characters fold one to one. -/
theorem Pattern.matchParts_ok_of_foldsSimply {p : Pattern}
    (hjoined : ∀ s ∈ p.segments, LiteralsJoined s.tokens) {ic : Bool} {parts : List String}
    (hfold : ic = true → ∀ part ∈ parts, ∀ c ∈ part.toList, Text.foldsSimply c = true)
    (isDirectory : Bool) : ∃ b, p.matchParts parts isDirectory ic = .ok b := by
  unfold Pattern.matchParts
  split
  · exact ⟨false, rfl⟩
  · split
    · exact ⟨false, rfl⟩
    · cases ic with
      | false =>
        obtain ⟨b, hb, -⟩ := (Glob.ofPattern p false).matchParts_decides rfl parts
        exact ⟨b, hb⟩
      | true =>
        refine (Glob.ofPattern p true).matchParts_ok fun s hs part hpart => ?_
        obtain ⟨b, hb, -⟩ := Segment.matchComponent_lower_decides
          (hjoined s (Glob.mem_segments_of_glob_mem hs)) (hfold rfl part hpart)
        exact ⟨b, hb⟩

/-- An anchored pattern whose leading segments are literal, read as written, and followed by
more segments matches a path only if the path has more components than those segments, the
first ones equal to their texts once folded. -/
theorem Pattern.prefix_of_matchParts {N : Pattern} (hanch : N.anchored = true)
    {lits rest : List Segment} (hsegs : N.segments = lits ++ rest)
    (hlits : ∀ s ∈ lits, s.isLiteral = true ∧ s.literalText = s.text) (hrest : rest ≠ [])
    {ic : Bool} {xs : List String} {isDirectory : Bool}
    (h : N.matchParts xs isDirectory ic = .ok true) :
    (xs.take lits.length).map (fun t => if ic then Text.lower t else t) =
        (lits.map Segment.text).map (fun t => if ic then Text.lower t else t) ∧
      lits.length < xs.length := by
  have hg : (Glob.ofPattern N ic).matchParts xs = .ok true := by
    unfold Pattern.matchParts at h
    split at h
    · cases h
    · split at h
      · cases h
      · exact h
  have hdec := (Glob.ofPattern N ic).matchParts_decidesUnless
    (fun _ _ => DecidesUnless.of_eq_ok_true_iff Iff.rfl fun _ _ => trivial) xs
  -- the folded components are in the language of the steps: one per literal segment first
  have hsteps : StepsMatch (Segment.Passes ic) (lits.map Step.glob ++ Glob.stepsOfSegments rest)
      (xs.map fun t => if ic then Text.lower t else t) := by
    have hlang := (hdec.decides_of_ok ⟨true, hg⟩).eq_ok_true_iff.mp hg
    rwa [Glob.steps_ofPattern_of_anchored hanch, hsegs,
      Glob.stepsOfSegments_append (fun s hs => (hlits s hs).1) hrest] at hlang
  obtain ⟨ys, zs, hxs, hys, hzs⟩ := StepsMatch.of_map_glob_append hsteps
  obtain ⟨st, hst, hne⟩ := Glob.exists_consuming_step hrest
  have hzs' : zs ≠ [] := hzs.ne_nil_of_mem hst hne
  have hlen : ys.length = lits.length := hys.length_eq.symm
  have hlen' : xs.length = ys.length + zs.length := by
    rw [← List.length_map (f := fun t => if ic then Text.lower t else t), hxs, List.length_append]
  refine ⟨?_, ?_⟩
  · rw [List.map_take, hxs, ← hlen, List.take_left, forall₂_passes_literal hlits hys]
  · have := List.length_pos_iff.mpr hzs'
    omega

/-! ## Searches that succeed -/

section Search

variable {ε α β : Type}

/-- A search whose every step succeeds succeeds, and finds only what some step finds. -/
theorem findSomeM?_of_forall_ok {f : α → Except ε (Option β)} {Q : β → Prop} :
    ∀ {l : List α}, (∀ a ∈ l, ∃ o, f a = .ok o ∧ ∀ w, o = some w → Q w) →
      ∃ o, l.findSomeM? f = .ok o ∧ ∀ w, o = some w → Q w
  | [], _ => ⟨none, rfl, fun _ h => by cases h⟩
  | a :: l, h => by
    obtain ⟨o, ha, hQ⟩ := h a List.mem_cons_self
    rw [List.findSomeM?_cons, ha]
    cases o with
    | some w => exact ⟨some w, rfl, hQ⟩
    | none => exact findSomeM?_of_forall_ok fun b hb => h b (List.mem_cons_of_mem a hb)

/-- A search that succeeds at every step before one that finds something finds something. -/
theorem findSomeM?_some_of_prefix {f : α → Except ε (Option β)} {Q : β → Prop} {l₁ : List α}
    {a : α} {w : β} (l₂ : List α) (hpre : ∀ y ∈ l₁, ∃ o, f y = .ok o ∧ ∀ w, o = some w → Q w)
    (ha : f a = .ok (some w)) (hw : Q w) :
    ∃ w', (l₁ ++ a :: l₂).findSomeM? f = .ok (some w') ∧ Q w' := by
  obtain ⟨o, h₁, hQ⟩ := findSomeM?_of_forall_ok hpre
  rw [findSomeM?_append, h₁]
  cases o with
  | some w' => exact ⟨w', rfl, hQ w' rfl⟩
  | none => exact ⟨w, by rw [List.findSomeM?_cons, ha]; rfl, hw⟩

end Search

/-! ## The last match on the directories the inspection walked -/

/-- The entries of a list around the one at index `i`, last first. -/
theorem reverse_eq_around {α : Type} {l : List α} {i : Nat} {a : α} (h : l[i]? = some a) :
    l.reverse = (l.drop (i + 1)).reverse ++ a :: (l.take i).reverse := by
  obtain ⟨hi, hget⟩ := List.getElem?_eq_some_iff.mp h
  have hsplit : l = l.take i ++ a :: l.drop (i + 1) := by
    calc l = l.take i ++ l.drop i := (List.take_append_drop i l).symm
      _ = l.take i ++ a :: l.drop (i + 1) := by rw [List.drop_eq_getElem_cons hi, hget]
  conv_lhs => rw [hsplit]
  simp

/-- What the walk of the resolver over the directories of a warned negation relies on: `N` is
the `i`-th entry of `R`, anchored, with leading literal segments `lits` read as written and more
segments `rest` after them; the entries are as parsed; with case ignored, the characters of the
leading segments fold one to one; and no later negation matches a directory they name. -/
structure WarnedPrefix (R : RuleSet) (ic : Bool) (i : Nat) (N : Pattern)
    (lits rest : List Segment) : Prop where
  get : R.patterns[i]? = some N
  joined : ∀ p ∈ R.patterns, ∀ s ∈ p.segments, LiteralsJoined s.tokens
  anchored : N.anchored = true
  segments : N.segments = lits ++ rest
  literal : ∀ s ∈ lits, s.isLiteral = true ∧ s.literalText = s.text
  rest_ne_nil : rest ≠ []
  folds : ic = true → ∀ s ∈ lits, ∀ c ∈ s.text.toList, Text.foldsSimply c = true
  later : ∀ p ∈ R.patterns.drop (i + 1), p.negated = true → ∀ m, 0 < m → m ≤ lits.length →
    p.matchParts ((lits.take m).map Segment.text) true ic = .ok false

section Walk

variable {R : RuleSet} {ic : Bool} {i : Nat} {N : Pattern} {lits rest : List Segment}

/-- On a directory named by a run of the warned negation's leading literal segments, the search
for the last pattern that matches succeeds, finds no negation, and finds what the inspection
found among the earlier entries unless a later entry matches: the entries after `N` are no
negations that match and fail nowhere, and `N`, with more segments than the directory has
components, does not match. -/
theorem findSomeM?_matchStep_run (h : WarnedPrefix R ic i N lits rest)
    {m : Nat} (hm : 0 < m) (hmk : m ≤ lits.length) {found : Option Pattern}
    (hearlier : Inspect.firstMatching ((lits.take m).map Segment.text) ic
      (R.patterns.take i).reverse = .ok found) (hfound : ∀ q, found = some q → q.negated = false) :
    ∃ o, R.patterns.reverse.findSomeM? (Inspect.matchStep ((lits.take m).map Segment.text) ic) =
      .ok o ∧ (∀ q, o = some q → q.negated = false) ∧ (o = none → found = none) := by
  have hfoldT : ic = true → ∀ part ∈ (lits.take m).map Segment.text, ∀ c ∈ part.toList,
      Text.foldsSimply c = true := by
    intro hic part hpart c hc
    obtain ⟨s, hs, rfl⟩ := List.mem_map.mp hpart
    exact h.folds hic s (List.mem_of_mem_take hs) c hc
  -- the entries after `N` find no negation
  have hpost : ∀ p ∈ (R.patterns.drop (i + 1)).reverse,
      ∃ o, Inspect.matchStep ((lits.take m).map Segment.text) ic p = .ok o ∧
        ∀ q, o = some q → q.negated = false := by
    intro p hp
    have hp' : p ∈ R.patterns.drop (i + 1) := List.mem_reverse.mp hp
    obtain ⟨b, hb⟩ := p.matchParts_ok_of_foldsSimply (h.joined p (List.mem_of_mem_drop hp'))
      hfoldT true
    refine ⟨_, Inspect.matchStep_of_eq_ok hb, fun q hq => ?_⟩
    cases b with
    | false => cases hq
    | true =>
      cases hq
      cases hneg : p.negated with
      | false => rfl
      | true =>
        rw [h.later p hp' hneg m hm hmk] at hb
        cases hb
  -- `N` does not match a directory with no more components than its literal segments
  have hN' : N.matchParts ((lits.take m).map Segment.text) true ic = .ok false := by
    obtain ⟨b, hb⟩ := N.matchParts_ok_of_foldsSimply (h.joined N (List.mem_of_getElem? h.get))
      hfoldT true
    cases b with
    | false => exact hb
    | true =>
      have hlen := (Pattern.prefix_of_matchParts h.anchored h.segments h.literal h.rest_ne_nil hb).2
      simp only [List.length_map, List.length_take] at hlen
      omega
  obtain ⟨o, ho, hQ⟩ := findSomeM?_of_forall_ok hpost
  rw [reverse_eq_around h.get, findSomeM?_append, ho]
  cases o with
  | some q => exact ⟨some q, rfl, hQ, fun h => by cases h⟩
  | none =>
    refine ⟨found, ?_, hfound, id⟩
    show (N :: (R.patterns.take i).reverse).findSomeM?
      (Inspect.matchStep ((lits.take m).map Segment.text) ic) = .ok found
    rw [List.findSomeM?_cons, Inspect.matchStep_of_eq_ok hN', ← hearlier,
      Inspect.firstMatching_eq_findSomeM]
    rfl

/-- With one rule set above a path, the sweep gives the verdict of the rule set's last match. -/
theorem Resolver.sweepSpec_single {y : PosixPath} (hy : y.isUnder R.baseDir = true)
    (isDirectory : Bool) :
    Resolver.sweepSpec ic [R] y isDirectory = (do
      let o ← R.lastMatch y isDirectory ic
      pure ((o.map Pattern.verdict).getD .notIgnored)) := by
  have hfilter : [R].filter (fun rs => y.isUnder rs.baseDir) = [R] := by simp [hy]
  rw [Resolver.sweepSpec, hfilter, List.reverse_singleton, List.findSomeM?_cons]
  cases R.lastMatch y isDirectory ic with
  | error e => rfl
  | ok o => cases o <;> rfl

/-- On a directory whose components fold like a run of the warned negation's leading literal
segments, the resolver's check of the directory succeeds and only ignores; it finds nothing
only where the inspection found no earlier entry. -/
theorem blocks_run (h : WarnedPrefix R ic i N lits rest)
    {y : PosixPath} (hy : y.isUnder R.baseDir = true) {m : Nat} (hm : 0 < m)
    (hmk : m ≤ lits.length)
    (hrel : ((y.relativeTo R.baseDir).getD []).map (fun t => if ic then Text.lower t else t) =
      ((lits.take m).map Segment.text).map fun t => if ic then Text.lower t else t)
    {found : Option Pattern}
    (hearlier : Inspect.firstMatching ((lits.take m).map Segment.text) ic
      (R.patterns.take i).reverse = .ok found) (hfound : ∀ q, found = some q → q.negated = false) :
    ∃ o, Resolver.blocks ic [R] y = .ok o ∧ (∀ w, o = some w → w.ignored = true) ∧
      (o = none → found = none) := by
  obtain ⟨o, ho, hQ, hnone⟩ := findSomeM?_matchStep_run h hm hmk hearlier hfound
  have hlast : R.lastMatch y true ic = .ok o := by
    rw [RuleSet.lastMatch, List.findM?_eq_findSomeM?, ← ho]
    refine findSomeM?_congr fun p _ => ?_
    rw [Inspect.matchStep, p.matchParts_congr hrel]
  have hsweep : Resolver.sweepSpec ic [R] y true = .ok ((o.map Pattern.verdict).getD .notIgnored) := by
    rw [Resolver.sweepSpec_single hy, hlast]
    rfl
  refine ⟨_, Resolver.blocks_of_sweepSpec hsweep, fun w hw => ?_, fun h => hnone ?_⟩
  · split at hw
    · cases hw
      assumption
    · cases hw
  · -- a pattern found is no negation, so its verdict ignores
    cases o with
    | none => rfl
    | some q =>
      simp [Pattern.verdict, hQ q rfl] at h

/-- The components of an ancestor of a path below a base directory are the first ones of the
path's. -/
theorem relativeTo_getD_eq_take {x y B : PosixPath} (hx : x.isUnder B = true)
    (hy : y.isUnder B = true) (hpre : y.parts <+: x.parts) :
    (y.relativeTo B).getD [] = ((x.relativeTo B).getD []).take (y.parts.length - B.parts.length) := by
  rw [PosixPath.relativeTo_of_isUnder hx, PosixPath.relativeTo_of_isUnder hy, Option.getD_some,
    Option.getD_some, List.prefix_iff_eq_take.mp hpre, List.drop_take, List.length_take,
    Nat.min_eq_left hpre.length_le]

/-- On the way to a path whose first components below the base directory fold like the warned
negation's leading literal segments, each directory down to the one those segments name is
checked without failing and only ignores, and that one is ignored. -/
theorem blocks_on_the_way (h : WarnedPrefix R ic i N lits rest)
    (hnone : ∀ m, 0 < m → m < lits.length → Inspect.firstMatching ((lits.take m).map Segment.text)
      ic (R.patterns.take i).reverse = .ok none)
    (hsome : ∃ q, Inspect.firstMatching (lits.map Segment.text) ic (R.patterns.take i).reverse =
      .ok (some q) ∧ q.negated = false)
    {x : PosixPath} (hx : x.isUnder R.baseDir = true)
    (hfoldk : (((x.relativeTo R.baseDir).getD []).take lits.length).map
        (fun t => if ic then Text.lower t else t) =
      (lits.map Segment.text).map (fun t => if ic then Text.lower t else t))
    {y : PosixPath} (hy : y.isUnder R.baseDir = true) (hypre : y.parts <+: x.parts)
    (hylen : y.parts.length ≤ R.baseDir.parts.length + lits.length) :
    ∃ o, Resolver.blocks ic [R] y = .ok o ∧ (∀ w, o = some w → w.ignored = true) ∧
      (y.parts.length = R.baseDir.parts.length + lits.length → o ≠ none) := by
  have hby : R.baseDir.parts.length < y.parts.length := (PosixPath.isUnder_iff.mp hy).2.1
  set m := y.parts.length - R.baseDir.parts.length
  have hmk : m ≤ lits.length := by omega
  -- its components fold like the first `m` literal segments
  have hrel : ((y.relativeTo R.baseDir).getD []).map (fun t => if ic then Text.lower t else t) =
      ((lits.take m).map Segment.text).map fun t => if ic then Text.lower t else t := by
    have hfold := congrArg (List.take m) hfoldk
    simp only [← List.map_take, List.take_take, Nat.min_eq_left hmk] at hfold
    rw [relativeTo_getD_eq_take hx hy hypre]
    exact hfold
  rcases Nat.lt_or_ge m lits.length with hlt | hge
  · obtain ⟨o, ho, hQ, -⟩ := blocks_run h hy (by omega) hmk hrel (hnone m (by omega) hlt)
      (fun _ h => by cases h)
    exact ⟨o, ho, hQ, fun h => by omega⟩
  · -- the directory the inspection names: the earlier entry found there is no negation
    obtain ⟨q, hq, hqneg⟩ := hsome
    have hmk' : m = lits.length := by omega
    obtain ⟨o, ho, hQ, hfound⟩ := blocks_run h hy (by omega) hmk hrel
      (by rw [hmk', List.take_length]; exact hq) (fun _ h => by cases h; exact hqneg)
    exact ⟨o, ho, hQ, fun _ h => by cases hfound h⟩

/-- The walk of the resolver over a path that the warned negation matches ignores it: the
directory the inspection names is an ancestor of the path, the directories before it are
checked without failing, and that directory is ignored if none before it is. -/
theorem judge_ignored_of_run (h : WarnedPrefix R ic i N lits rest) (hne : lits ≠ [])
    (hnone : ∀ m, 0 < m → m < lits.length → Inspect.firstMatching ((lits.take m).map Segment.text)
      ic (R.patterns.take i).reverse = .ok none)
    (hsome : ∃ q, Inspect.firstMatching (lits.map Segment.text) ic (R.patterns.take i).reverse =
      .ok (some q) ∧ q.negated = false)
    {x : PosixPath} (hx : x.isUnder R.baseDir = true) {isDirectory : Bool}
    (hmatch : N.matchParts ((x.relativeTo R.baseDir).getD []) isDirectory ic = .ok true) :
    ∃ v, Resolver.judge ic x isDirectory [R] = .ok v ∧ v.ignored = true := by
  obtain ⟨hfoldk, hk⟩ := Pattern.prefix_of_matchParts h.anchored h.segments h.literal
    h.rest_ne_nil hmatch
  obtain ⟨hroot, hlen, hpreB⟩ := PosixPath.isUnder_iff.mp hx
  rw [PosixPath.relativeTo_of_isUnder hx, Option.getD_some, List.length_drop] at hk
  have hk0 : 0 < lits.length := List.length_pos_iff.mpr hne
  -- the directory that the inspection names, as an ancestor of the path
  set D : PosixPath := ⟨x.root, x.parts.take (R.baseDir.parts.length + lits.length)⟩
  have hDlen : D.parts.length = R.baseDir.parts.length + lits.length := by
    simp only [D, List.length_take]
    omega
  have hxD : x.isUnder D = true :=
    PosixPath.isUnder_iff.mpr ⟨rfl, by omega, List.take_prefix _ _⟩
  have hDB : D.isUnder R.baseDir = true := by
    refine PosixPath.isUnder_iff.mpr ⟨hroot, by omega, ?_⟩
    rw [List.prefix_iff_eq_take.mp hpreB]
    exact List.take_prefix_take_left (by omega)
  obtain ⟨oD, hoD, hQD, hsomeD⟩ :=
    blocks_on_the_way h hnone hsome hx hfoldk hDB (List.take_prefix _ _) hDlen.le
  obtain ⟨w, hw⟩ := Option.ne_none_iff_exists'.mp (hsomeD hDlen)
  -- the walk reaches that directory, or an ignored one before it
  obtain ⟨rest₀, hpar⟩ := PosixPath.parents_reverse_of_isUnder hxD
  have hpre : ∀ y ∈ D.parents.reverse.filter (·.isUnder R.baseDir),
      ∃ o, Resolver.blocks ic [R] y = .ok o ∧ ∀ w, o = some w → w.ignored = true := by
    intro y hy
    obtain ⟨hyD, hyB⟩ := List.mem_filter.mp hy
    obtain ⟨-, hylen, hypre⟩ := PosixPath.isUnder_iff.mp
      (PosixPath.mem_parents.mp (List.mem_reverse.mp hyD))
    obtain ⟨o, ho, hQ, -⟩ := blocks_on_the_way h hnone hsome hx hfoldk hyB
      (hypre.trans (List.take_prefix _ _)) (by omega)
    exact ⟨o, ho, hQ⟩
  obtain ⟨v, hv, hign⟩ := findSomeM?_some_of_prefix (rest₀.filter (·.isUnder R.baseDir)) hpre
    (hw ▸ hoD) (hQD w hw)
  rw [Resolver.judge_cons, hpar, List.filter_append,
    List.filter_cons_of_pos (p := fun y : PosixPath => y.isUnder R.baseDir) hDB, hv]
  exact ⟨v, rfl, hign⟩

end Walk

/-! ## The warning -/

/-- Entries whose images are distinct are told apart by their images. -/
theorem eq_of_getElem?_of_nodup_map {α β : Type} {f : α → β} {l : List α}
    (hl : (l.map f).Nodup) {i j : Nat} {a b : α} (hi : l[i]? = some a) (hj : l[j]? = some b)
    (hab : f a = f b) : i = j ∧ a = b := by
  obtain ⟨hi', rfl⟩ := List.getElem?_eq_some_iff.mp hi
  obtain ⟨hj', rfl⟩ := List.getElem?_eq_some_iff.mp hj
  have hij : i = j := (@List.Nodup.getElem_inj_iff _ _ hl i (by simpa using hi') j
    (by simpa using hj')).mp (by simpa using hab)
  subst hij
  exact ⟨rfl, rfl⟩

/-- A rule set registered alone judges every path below its directory, and only it. -/
theorem Registry.applicable_register_empty {R : RuleSet} {x : PosixPath}
    (hx : x.isUnder R.baseDir = true) : (Registry.empty.register R).2.applicable x = [R] := by
  rw [Registry.applicable_eq_filter_all (Registry.Reachable.register R .empty).idsDistinct]
  simp [Registry.all, Registry.register, Registry.empty, upsert, hx]

/-- What a warning about a negation guarantees: a resolver holding its rule file alone ignores
every path below the file's directory that the negation matches, when the leading literal
segments read as written, no later negation matches a directory they name, and, with case
ignored, their characters fold one to one. The entries are as a loaded file has them: their
literal tokens are joined (`Pattern.literalsJoined_of_ofLine`) and their line numbers distinct. -/
theorem flagged_negation_has_no_effect {R : RuleSet} {ic : Bool}
    (hjoined : ∀ p ∈ R.patterns, ∀ s ∈ p.segments, LiteralsJoined s.tokens)
    (hlines : (R.patterns.map (·.lineNumber)).Nodup)
    {ds : List Diagnostic} (hds : Inspect.unreachableNegations R.patterns ic = .ok ds)
    {i : Nat} {N : Pattern} (hN : R.patterns[i]? = some N)
    (hflag : ∃ d ∈ ds, d.line = N.lineNumber)
    (hplain : ∀ s ∈ N.segments.takeWhile Segment.isLiteral, s.literalText = s.text)
    (hfold : ic = true → ∀ s ∈ N.segments.takeWhile Segment.isLiteral, ∀ c ∈ s.text.toList,
      Text.foldsSimply c = true)
    (hlater : ∀ p ∈ R.patterns.drop (i + 1), p.negated = true → ∀ m, 0 < m →
      m < N.segments.length → (∀ s ∈ N.segments.take m, s.isLiteral = true) →
      p.matchParts ((N.segments.take m).map Segment.text) true ic = .ok false)
    {c : VerdictCache} (hc : SessionReachable ic (· = R) (Registry.empty.register R).2 c)
    {q : String} (hbelow : (PosixPath.normalize q).isUnder R.baseDir = true) {isDirectory : Bool}
    (hmatch : N.matchParts (((PosixPath.normalize q).relativeTo R.baseDir).getD []) isDirectory ic =
      .ok true)
    (useCache : Bool) :
    ∃ v, ((({ registry := (Registry.empty.register R).2, ignoreCase := ic } : Resolver).resolve q
      isDirectory useCache).run.run c).1 = .ok v ∧ v.ignored = true := by
  -- the warning on the line of `N` comes from the walk over `N` itself
  obtain ⟨d, hd, hdline⟩ := hflag
  obtain ⟨j, N', hN', -, hanch, hblocked⟩ := Inspect.mem_unreachableNegations hds hd
  obtain ⟨lits, rest, hsegs, hne, hrest, hlits, hnone, hsome, hline⟩ :=
    Inspect.blockedBy_eq_some hblocked
  obtain ⟨rfl, rfl⟩ := eq_of_getElem?_of_nodup_map hlines hN' hN (hline.symm.trans hdline)
  -- the segments the walk went through are leading literal ones
  have hlead : ∀ s ∈ lits, s ∈ N'.segments.takeWhile Segment.isLiteral := fun s hs => by
    rw [hsegs, List.takeWhile_append_of_pos hlits]
    exact List.mem_append_left _ hs
  have hlater' : ∀ p ∈ R.patterns.drop (j + 1), p.negated = true → ∀ m, 0 < m →
      m ≤ lits.length → p.matchParts ((lits.take m).map Segment.text) true ic = .ok false := by
    intro p hp hneg m hm hmk
    have htake : N'.segments.take m = lits.take m := by
      rw [hsegs, List.take_append_of_le_length hmk]
    have hlen : m < N'.segments.length := by
      have := List.length_pos_iff.mpr hrest
      rw [hsegs, List.length_append]
      omega
    rw [← htake]
    exact hlater p hp hneg m hm hlen fun s hs => hlits s (List.mem_of_mem_take (htake ▸ hs))
  rw [hc.resolve_eq_verdictOf (fun _ _ ha hb _ _ => ha.trans hb.symm) q isDirectory useCache,
    Registry.applicable_register_empty hbelow,
    Resolver.verdictOf_eq_judge (List.pairwise_singleton _ _) (by simpa using hbelow)]
  have hwarned : WarnedPrefix R ic j N' lits rest :=
    ⟨hN', hjoined, hanch, hsegs, fun s hs => ⟨hlits s hs, hplain s (hlead s hs)⟩, hrest,
      fun hic s hs => hfold hic s (hlead s hs), hlater'⟩
  exact judge_ignored_of_run hwarned hne (by simpa using hnone) (by simpa using hsome) hbelow hmatch

/-- The file `build/`, `!build/keep.txt` gets a warning on its second line, and
`/repo/build/keep.txt` stays ignored. -/
theorem flagged_negation_has_no_effect_build :
    let build : Pattern :=
      { raw := "build/", segments := [.glob "build" [.lit "build"]], anchored := false,
        directoryOnly := true, negated := false, sourceFile := none, lineNumber := 1 }
    let keep : Pattern :=
      { raw := "!build/keep.txt",
        segments := [.glob "build" [.lit "build"], .glob "keep.txt" [.lit "keep.txt"]],
        anchored := true, directoryOnly := false, negated := true, sourceFile := none,
        lineNumber := 2 }
    let R : RuleSet :=
      { id := "root", baseDir := ⟨"/", ["repo"]⟩, patterns := [build, keep], version := 1,
        origin := Origin.found, errors := [], digest := "" }
    let d : Diagnostic :=
      ⟨"", 2, "!build/keep.txt",
        "Negation has no effect: parent directory 'build' is excluded by line 1", .warning⟩
    let q := "/repo/build/keep.txt"
    (∀ p ∈ R.patterns, ∀ s ∈ p.segments, LiteralsJoined s.tokens) ∧
    (R.patterns.map (·.lineNumber)).Nodup ∧
    Inspect.unreachableNegations R.patterns false = .ok [d] ∧
    (∀ s ∈ keep.segments.takeWhile Segment.isLiteral, s.literalText = s.text) ∧
    (PosixPath.normalize q).isUnder R.baseDir = true ∧
    keep.matchParts (((PosixPath.normalize q).relativeTo R.baseDir).getD []) false false =
      .ok true ∧
    ∃ v, ((({ registry := (Registry.empty.register R).2, ignoreCase := false } : Resolver).resolve
      q false true).run.run (VerdictCache.empty 10)).1 = .ok v ∧ v.ignored = true := by
  intro build keep R d q
  have hjoined : ∀ p ∈ R.patterns, ∀ s ∈ p.segments, LiteralsJoined s.tokens := by
    simp [R, build, keep, LiteralsJoined, Segment.tokens]
  have hlines : (R.patterns.map (·.lineNumber)).Nodup := by decide
  have hds : Inspect.unreachableNegations R.patterns false = .ok [d] := by cbv
  have hplain : ∀ s ∈ keep.segments.takeWhile Segment.isLiteral, s.literalText = s.text := by
    decide
  have hbelow : (PosixPath.normalize q).isUnder R.baseDir = true := by cbv
  have hmatch : keep.matchParts (((PosixPath.normalize q).relativeTo R.baseDir).getD []) false
      false = .ok true := by cbv
  have hc : SessionReachable false (· = R) (Registry.empty.register R).2 (VerdictCache.empty 10) :=
    .register _ rfl (.start 10)
  exact ⟨hjoined, hlines, hds, hplain, hbelow, hmatch,
    flagged_negation_has_no_effect hjoined hlines hds (i := 1) rfl ⟨d, List.mem_singleton_self _, rfl⟩
      hplain (fun h => by cases h) (fun p hp => by simp [R] at hp) hc hbelow hmatch true⟩

/-- A later negation of the directory defeats the warning: in `build/`, `!build/keep.txt`,
`!build/` the second line is warned about, yet the third brings `build` back and the second then
re-includes `/repo/build/keep.txt`. -/
theorem flagged_negation_reincluded :
    let build : Pattern :=
      { raw := "build/", segments := [.glob "build" [.lit "build"]], anchored := false,
        directoryOnly := true, negated := false, sourceFile := none, lineNumber := 1 }
    let keep : Pattern :=
      { raw := "!build/keep.txt",
        segments := [.glob "build" [.lit "build"], .glob "keep.txt" [.lit "keep.txt"]],
        anchored := true, directoryOnly := false, negated := true, sourceFile := none,
        lineNumber := 2 }
    let back : Pattern :=
      { raw := "!build/", segments := [.glob "build" [.lit "build"]], anchored := false,
        directoryOnly := true, negated := true, sourceFile := none, lineNumber := 3 }
    let R : RuleSet :=
      { id := "root", baseDir := ⟨"/", ["repo"]⟩, patterns := [build, keep, back], version := 1,
        origin := Origin.found, errors := [], digest := "" }
    let d : Diagnostic :=
      ⟨"", 2, "!build/keep.txt",
        "Negation has no effect: parent directory 'build' is excluded by line 1", .warning⟩
    let q := "/repo/build/keep.txt"
    Inspect.unreachableNegations R.patterns false = .ok [d] ∧
    keep.matchParts (((PosixPath.normalize q).relativeTo R.baseDir).getD []) false false =
      .ok true ∧
    ((({ registry := (Registry.empty.register R).2, ignoreCase := false } : Resolver).resolve
      q false true).run.run (VerdictCache.empty 10)).1 = .ok ⟨false, some keep⟩ := by
  intro build keep back R d q
  have hc : SessionReachable false (· = R) (Registry.empty.register R).2 (VerdictCache.empty 10) :=
    .register _ rfl (.start 10)
  have hbelow : (PosixPath.normalize q).isUnder R.baseDir = true := by cbv
  refine ⟨by cbv, by cbv, ?_⟩
  rw [hc.resolve_eq_verdictOf (fun _ _ ha hb _ _ => ha.trans hb.symm),
    Registry.applicable_register_empty hbelow]
  cbv

/-- The inspection names a directory by the text of the segments, escapes kept: after `a\\b/`,
the negation `!/a\b/x` is warned about for the directory `a\b`, yet it matches below `ab`, which
the first line does not exclude, and it decides `/repo/ab/x`, which is not ignored. -/
theorem flagged_negation_escaped :
    let dir : Pattern :=
      { raw := "a\\\\b/", segments := [.glob "a\\\\b" [.lit "a\\b"]], anchored := false,
        directoryOnly := true, negated := false, sourceFile := none, lineNumber := 1 }
    let keep : Pattern :=
      { raw := "!/a\\b/x", segments := [.glob "a\\b" [.lit "ab"], .glob "x" [.lit "x"]],
        anchored := true, directoryOnly := false, negated := true, sourceFile := none,
        lineNumber := 2 }
    let R : RuleSet :=
      { id := "root", baseDir := ⟨"/", ["repo"]⟩, patterns := [dir, keep], version := 1,
        origin := Origin.found, errors := [], digest := "" }
    let d : Diagnostic :=
      ⟨"", 2, "!/a\\b/x",
        "Negation has no effect: parent directory 'a\\b' is excluded by line 1", .warning⟩
    let q := "/repo/ab/x"
    Pattern.ofLine "a\\\\b/" none 1 = .ok (some dir) ∧
    Pattern.ofLine "!/a\\b/x" none 2 = .ok (some keep) ∧
    Inspect.unreachableNegations R.patterns false = .ok [d] ∧
    keep.matchParts (((PosixPath.normalize q).relativeTo R.baseDir).getD []) false false =
      .ok true ∧
    ((({ registry := (Registry.empty.register R).2, ignoreCase := false } : Resolver).resolve
      q false true).run.run (VerdictCache.empty 10)).1 = .ok ⟨false, some keep⟩ := by
  intro dir keep R d q
  have hdir : Pattern.ofLine "a\\\\b/" none 1 = .ok (some dir) := by
    rw [Pattern.ofLine]
    simp only [String.splitOn_slash]
    cbv
  have hkeep : Pattern.ofLine "!/a\\b/x" none 2 = .ok (some keep) := by
    rw [Pattern.ofLine]
    simp only [String.splitOn_slash]
    cbv
  have hc : SessionReachable false (· = R) (Registry.empty.register R).2 (VerdictCache.empty 10) :=
    .register _ rfl (.start 10)
  have hbelow : (PosixPath.normalize q).isUnder R.baseDir = true := by cbv
  refine ⟨hdir, hkeep, by cbv, by cbv, ?_⟩
  rw [hc.resolve_eq_verdictOf (fun _ _ ha hb _ _ => ha.trans hb.symm),
    Registry.applicable_register_empty hbelow]
  cbv

end IgnoreRules
