import Mathlib
import IgnoreRules.Proofs.Shortcuts
import IgnoreRules.Proofs.WellFormed

/-!
# Ignoring case widens what matches, for characters that fold one to one

With case ignored, the matcher (matcher.py:25–50, 95–117 and 164–209) lowercases a path before
it matches it, lowercases the literal text of a pattern too, and asks a bracket class about a
character and about its uppercase form.
A path that a pattern matches with case respected is then matched with case ignored, provided

- the pattern has no complemented bracket class: `[!a]` admits `A` with case respected, but with
  case ignored the class of `a` admits `A` too, so its complement no longer does;
- every character of the path folds one to one (`Text.foldsSimply`): it lowercases to one
  character whose uppercase form is one character, it is one of the two, and it is not the
  capital sigma, whose lowercase form depends on its neighbours. Otherwise `İ` lowercases to two
  characters and no longer passes `?`; the Kelvin sign lowercases to `k`, and the class that
  holds the Kelvin sign itself admits neither `k` nor its uppercase form `K`; and `ΑΣ`
  lowercases to `ας`, which does not end with the `σ` of `*Σ`.

The argument runs on languages. The case-respecting match puts the path in the language of the
pattern's steps. Lowering each component then lands in the language of the case-ignoring
atoms of its segment, and on such a lowered path no check of a component fails, so the
case-ignoring matcher decides that language and answers yes.

## Main statements

- `atomsMatch_lower_of_tokensMatch`: lowering a component of the language of some tokens gives a
  component of the language of their case-ignoring atoms.
- `Glob.matchParts_ok`: matching a path fails only where the check of a component fails.
- `Pattern.matchParts_ignoreCase_widens`: with no complemented class and characters that fold one
  to one, a match with case respected is a match with case ignored.
- `Pattern.matchParts_negatedClass_narrows`: `[!a]` matches `A` with case respected only.
- `Pattern.matchParts_dottedCapitalI_narrows`, `Pattern.matchParts_kelvinClass_narrows`,
  `Pattern.matchParts_finalSigma_narrows`: a pattern with no complemented class that matches a
  character that does not fold one to one with case respected only.
-/

namespace IgnoreRules

/-! ## Characters that fold one to one -/

namespace Text

/-- Whether a character's case folds one to one: it is not the capital sigma, whose lowercase
form depends on its neighbours, it lowercases to one character whose uppercase form is one
character, and it is one of these two. -/
def foldsSimply (c : Char) : Bool :=
  c != 'Σ' && (lowerChar c).any fun l =>
    lowerChar c == [l] && (upperChar l).any fun u => upperChar l == [u] && (c == l || c == u)

theorem foldsSimply_iff {c : Char} :
    foldsSimply c = true ↔
      c ≠ 'Σ' ∧ ∃ l u, lowerChar c = [l] ∧ upperChar l = [u] ∧ (c = l ∨ c = u) := by
  simp only [foldsSimply, Bool.and_eq_true, bne_iff_ne, ne_eq, List.any_eq_true, beq_iff_eq,
    Bool.or_eq_true]
  refine and_congr_right fun _ => ⟨?_, ?_⟩
  · rintro ⟨l, -, hl, u, -, hu, hcu⟩
    exact ⟨l, u, hl, hu, hcu⟩
  · rintro ⟨l, u, hl, hu, hcu⟩
    exact ⟨l, by simp [hl], hl, u, by simp [hu], hu, hcu⟩

/-- A text with no capital sigma lowercases character by character. -/
theorem lowerFrom_eq_flatMap (before : List Char) {cs : List Char} (h : 'Σ' ∉ cs) :
    lowerFrom before cs = cs.flatMap lowerChar := by
  induction cs generalizing before with
  | nil => rfl
  | cons c cs ih =>
    have hc : c ≠ 'Σ' := fun hc => h (hc ▸ List.mem_cons_self)
    rw [lowerFrom, if_neg hc, ih (c :: before) fun hm => h (List.mem_cons_of_mem c hm),
      List.flatMap_cons]

/-- A text whose characters fold one to one lowercases character by character. -/
theorem toList_lower {s : String} (h : ∀ c ∈ s.toList, foldsSimply c = true) :
    (lower s).toList = s.toList.flatMap lowerChar := by
  rw [lower, String.toList_ofList]
  exact lowerFrom_eq_flatMap [] fun hm => (foldsSimply_iff.mp (h _ hm)).1 rfl

theorem upper_toString {l u : Char} (h : upperChar l = [u]) : upper l.toString = u.toString := by
  simp [upper, h]

/-- Every character of the lowercase form of such a text has an uppercase form of one
character, so no class check fails on it. -/
theorem length_upper_of_mem_lower {s : String} (h : ∀ c ∈ s.toList, foldsSimply c = true)
    {d : Char} (hd : d ∈ (lower s).toList) : (upper d.toString).length = 1 := by
  rw [toList_lower h] at hd
  obtain ⟨c, hc, hdc⟩ := List.mem_flatMap.mp hd
  obtain ⟨-, l, u, hl, hu, -⟩ := foldsSimply_iff.mp (h c hc)
  rw [hl, List.mem_singleton] at hdc
  rw [hdc, upper_toString hu]
  simp

end Text

/-! ## One component -/

/-- With case ignored, a bracket class that is not complemented accepts the lowercase form of a
character it admits, when the character is that form or the uppercase form of it. -/
theorem CharClass.accepts_lower {k : CharClass} (hk : k.negated = false) {c l u : Char}
    (hu : Text.upperChar l = [u]) (hc : c = l ∨ c = u) (h : k.Admits c) :
    k.accepts l true = .ok true := by
  have hnames : k.Names c := by simpa [CharClass.Admits, Xor, hk] using h
  -- the lowercase form is asked first, and its uppercase form when it misses
  have hany : k.hitByAny [l.toString, u.toString] = .ok true := by
    obtain ⟨b, hb, hbiff⟩ := k.hitBy_decides l
    rw [CharClass.hitByAny, hb]
    cases b with
    | true => rfl
    | false =>
      have hcu : c = u :=
        hc.resolve_left fun hcl => Bool.false_ne_true (hbiff.mpr (hcl ▸ hnames))
      obtain ⟨b', hb', hb'iff⟩ := k.hitBy_decides u
      obtain rfl : b' = true := hb'iff.mpr (hcu ▸ hnames)
      simp only [CharClass.hitByAny, hb']
      rfl
  simp only [CharClass.accepts, ite_true, Text.upper_toString hu, hany, hk]
  rfl

theorem Atom.ofTokens_cons (t : Token) (ts : List Token) (ic : Bool) :
    Atom.ofTokens (t :: ts) ic = Atom.ofTokens [t] ic ++ Atom.ofTokens ts ic := by
  simp [Atom.ofTokens]

/-- Literal atoms in front of others take exactly their characters. -/
theorem AtomsMatch.map_char_append {ic : Bool} {l cs : List Char} {A : List Atom}
    (h : AtomsMatch ic A cs) : AtomsMatch ic (l.map Atom.char ++ A) (l ++ cs) :=
  (AtomsMatch.append_iff (by simp)).mpr ⟨l, cs, rfl, Atom.forall₂_map_char_iff.mpr rfl, h⟩

/-- Lowering a component of the language of some tokens, none of them a complemented class and
every character folding one to one, gives a component of the language of their case-ignoring
atoms. The induction is on the language: each token takes its own characters, lowered. -/
theorem atomsMatch_lower_of_tokensMatch {ts : List Token} {cs : List Char}
    (h : TokensMatch ts cs) (hneg : ∀ k, Token.cls k ∈ ts → k.negated = false)
    (hcs : ∀ c ∈ cs, Text.foldsSimply c = true) :
    AtomsMatch true (Atom.ofTokens ts true) (cs.flatMap Text.lowerChar) := by
  induction h with
  | nil => exact .nil
  | @lit t ts cs _ ih =>
    have hlower : (Text.lower t).toList = t.toList.flatMap Text.lowerChar :=
      Text.toList_lower fun c hc => hcs c (List.mem_append_left _ hc)
    rw [Atom.ofTokens_cons, List.flatMap_append]
    simp only [Atom.ofTokens, List.flatMap_cons, List.flatMap_nil, List.append_nil, ite_true,
      hlower]
    exact AtomsMatch.map_char_append (ih (fun k hk => hneg k (List.mem_cons_of_mem _ hk))
      fun c hc => hcs c (List.mem_append_right _ hc))
  | @any c ts cs _ ih =>
    obtain ⟨-, l, u, hl, -, -⟩ := Text.foldsSimply_iff.mp (hcs c List.mem_cons_self)
    rw [Atom.ofTokens_cons, List.flatMap_cons, hl]
    exact .one trivial (ih (fun k hk => hneg k (List.mem_cons_of_mem _ hk))
      fun d hd => hcs d (List.mem_cons_of_mem _ hd))
  | @star w ts cs _ ih =>
    rw [Atom.ofTokens_cons, List.flatMap_append]
    exact .star (ih (fun k hk => hneg k (List.mem_cons_of_mem _ hk))
      fun c hc => hcs c (List.mem_append_right _ hc))
  | @cls k c ts cs hk _ ih =>
    obtain ⟨-, l, u, hl, hu, hcu⟩ := Text.foldsSimply_iff.mp (hcs c List.mem_cons_self)
    rw [Atom.ofTokens_cons, List.flatMap_cons, hl]
    exact .one (CharClass.accepts_lower (hneg k List.mem_cons_self) hu hcu hk)
      (ih (fun k hk => hneg k (List.mem_cons_of_mem _ hk))
        fun d hd => hcs d (List.mem_cons_of_mem _ hd))

/-- With case ignored, the check of one component glob of a parsed pattern decides the language
of its case-ignoring atoms on the lowercase form of a text whose characters fold one to one: the
failure of a class needs an uppercase form longer than one character. -/
theorem Segment.matchComponent_lower_decides {s : Segment} (hs : LiteralsJoined s.tokens)
    {x : String} (hx : ∀ c ∈ x.toList, Text.foldsSimply c = true) :
    Decides (s.matchComponent true (Text.lower x))
      (AtomsMatch true (Atom.ofTokens s.tokens true) (Text.lower x).toList) := by
  rw [s.matchComponent_eq_matchAll hs]
  rcases Atom.matchAll_decides_unless_long_uppercase _ (Text.lower x) true with
    h | ⟨_, d, -, hd, -, -, hlen, -⟩
  · exact h
  · exact absurd (Text.length_upper_of_mem_lower hx hd) hlen

/-! ## Paths -/

/-- Sending each component into a language its step then accepts keeps the language of the
steps. -/
theorem StepsMatch.map {comp comp' : Segment → String → Prop} {f : String → String}
    {steps : List Step} {parts : List String} (h : StepsMatch comp steps parts)
    (himp : ∀ s part, Step.glob s ∈ steps → part ∈ parts → comp s part →
      comp' s (f part)) :
    StepsMatch comp' steps (parts.map f) := by
  induction h with
  | nil => exact .nil
  | gap _ ih =>
    rw [List.map_append]
    exact .gap (ih fun s part hs hpart =>
      himp s part (List.mem_cons_of_mem _ hs) (List.mem_append_right _ hpart))
  | @one step part steps parts hstep _ ih =>
    refine .one ?_ (ih fun s p hs hp =>
      himp s p (List.mem_cons_of_mem _ hs) (List.mem_cons_of_mem _ hp))
    cases step with
    | gap => exact hstep.elim
    | anyOne => trivial
    | glob s => exact himp s part List.mem_cons_self List.mem_cons_self hstep

theorem DecidesUnless.decides_of_ok {ε : Type} {m : Except ε Bool} {p : Prop} {bad : ε → Prop}
    (h : DecidesUnless m p bad) (hok : ∃ b, m = .ok b) : Decides m p := by
  refine h.resolve_right ?_
  rintro ⟨e, he, -⟩
  obtain ⟨b, hb⟩ := hok
  rw [hb] at he
  cases he

namespace Glob

variable (g : Glob)

/-- One step of the automaton fails only where the check of a step fails on the component. -/
theorem advance_ok {part : String}
    (hok : ∀ step ∈ g.steps.toList, ∃ b, g.passes step part = .ok b) :
    ∀ S : List Nat, ∃ next, g.advance part S = .ok next
  | [] => ⟨[], rfl⟩
  | s :: S => by
    obtain ⟨later, hlater⟩ := advance_ok hok S
    have hhere : ∃ here, g.reachFrom part s = .ok here := by
      unfold reachFrom
      cases hs : g.steps[s]? with
      | none => exact ⟨[], rfl⟩
      | some step =>
        cases step with
        | gap => exact ⟨[s], rfl⟩
        | anyOne => exact ⟨[s + 1], rfl⟩
        | glob seg =>
          obtain ⟨b, hb⟩ := hok _ (Array.mem_toList_iff.mpr (Array.mem_of_getElem? hs))
          refine ⟨if b then [s + 1] else [], ?_⟩
          simp only [hb]
          cases b <;> rfl
    obtain ⟨here, hhere⟩ := hhere
    exact ⟨_, by rw [advance_cons, hhere, hlater]; rfl⟩

/-- The automaton fails only where the check of a step fails on a component. -/
theorem run_ok : ∀ (parts : List String),
    (∀ part ∈ parts, ∀ step ∈ g.steps.toList, ∃ b, g.passes step part = .ok b) →
      ∀ S, ∃ b, g.run S parts = .ok b
  | [], _, _ => ⟨_, rfl⟩
  | part :: parts, hok, S => by
    obtain ⟨next, hnext⟩ := g.advance_ok (hok part List.mem_cons_self) S
    rw [run, hnext]
    show ∃ b, (if next.isEmpty = true then pure false else g.run (g.closure next) parts) = .ok b
    split
    · exact ⟨false, rfl⟩
    · exact run_ok parts (fun p hp => hok p (List.mem_cons_of_mem _ hp)) _

/-- Comparing components with segments pairwise fails only where a comparison fails. -/
theorem allPass_ok : ∀ pairs : List (Segment × String),
    (∀ x ∈ pairs, ∃ b, x.1.matchComponent g.ignoreCase x.2 = .ok b) →
      ∃ b, g.allPass pairs = .ok b
  | [], _ => ⟨true, rfl⟩
  | (seg, part) :: rest, hok => by
    obtain ⟨b, hb⟩ := hok _ List.mem_cons_self
    rw [allPass, hb]
    cases b with
    | true => exact allPass_ok rest fun x hx => hok x (List.mem_cons_of_mem _ hx)
    | false => exact ⟨false, rfl⟩

/-- Matching a path fails only where the check of one of its component globs fails on one of
its components, lowercased when case is ignored. -/
theorem matchParts_ok {parts : List String}
    (hok : ∀ s, Step.glob s ∈ g.steps.toList → ∀ part ∈ parts,
      ∃ b, s.matchComponent g.ignoreCase
        (if g.ignoreCase then Text.lower part else part) = .ok b) :
    ∃ b, g.matchParts parts = .ok b := by
  unfold matchParts
  cases hsuf : g.suffixSteps with
  | some segs =>
    -- the shortcut compares the last components with the segments after the leading gap
    simp only
    split
    · exact ⟨false, rfl⟩
    · refine g.allPass_ok _ fun x hx => ?_
      obtain ⟨hs, hp⟩ := List.of_mem_zip hx
      obtain ⟨part, hpart, hx2⟩ := List.mem_map.mp hp
      have hstep : Step.glob x.1 ∈ g.steps.toList := by
        rw [suffixSteps_eq_some hsuf]
        exact List.mem_cons_of_mem _ (List.mem_map_of_mem hs)
      rw [← hx2]
      exact hok x.1 hstep part (List.mem_of_mem_drop hpart)
  | none =>
    refine g.run_ok _ (fun part hpart step hstep => ?_) _
    obtain ⟨p, hp, rfl⟩ := List.mem_map.mp hpart
    cases step with
    | gap => exact ⟨false, rfl⟩
    | anyOne => exact ⟨true, rfl⟩
    | glob s => exact hok s hstep p hp

/-- Every component glob among the steps of a pattern is one of its segments. -/
theorem mem_segments_of_glob_mem {p : Pattern} {ic : Bool} {seg : Segment}
    (h : Step.glob seg ∈ (ofPattern p ic).steps.toList) : seg ∈ p.segments := by
  obtain ⟨i, hi⟩ := List.mem_iff_getElem?.mp h
  exact mem_segments_of_steps_ofPattern (by rwa [Array.getElem?_toList] at hi)

end Glob

/-! ## Patterns -/

/-- A pattern has no complemented bracket class. -/
def Pattern.NoNegatedClass (p : Pattern) : Prop :=
  ∀ s ∈ p.segments, ∀ k, Token.cls k ∈ s.tokens → k.negated = false

/-- Whether a token is a complemented bracket class. -/
def Token.isNegatedClass : Token → Bool
  | .cls k => k.negated
  | _ => false

theorem Pattern.noNegatedClass_iff (p : Pattern) :
    p.NoNegatedClass ↔ ∀ s ∈ p.segments, ∀ t ∈ s.tokens, t.isNegatedClass = false := by
  refine ⟨fun h s hs t ht => ?_, fun h s hs k hk => h s hs (.cls k) hk⟩
  cases t with
  | cls k => exact h s hs k ht
  | lit _ | any | star => rfl

instance (p : Pattern) : Decidable p.NoNegatedClass :=
  decidable_of_iff _ (Pattern.noNegatedClass_iff p).symm

/-- Read with case ignored, the glob of a pattern with no complemented class matches every path
whose characters fold one to one and whose components its steps accept with case respected:
lowered, each component is in the language of its segment's case-ignoring atoms, and on such
components no check fails. -/
theorem Glob.matchParts_lower_of_stepsMatch {p : Pattern}
    (hjoined : ∀ s ∈ p.segments, LiteralsJoined s.tokens) (hneg : p.NoNegatedClass)
    {parts : List String} (hfold : ∀ part ∈ parts, ∀ c ∈ part.toList, Text.foldsSimply c = true)
    (hmatch : StepsMatch Segment.Matches (Glob.ofPattern p true).steps.toList parts) :
    (Glob.ofPattern p true).matchParts parts = .ok true := by
  set g := Glob.ofPattern p true
  have hcheck : ∀ s, Step.glob s ∈ g.steps.toList → ∀ part ∈ parts,
      Decides (s.matchComponent true (Text.lower part))
        (AtomsMatch true (Atom.ofTokens s.tokens true) (Text.lower part).toList) :=
    fun s hs part hpart =>
      Segment.matchComponent_lower_decides (hjoined s (Glob.mem_segments_of_glob_mem hs))
        (hfold part hpart)
  have hlowered : StepsMatch (Segment.Passes true) g.steps.toList (parts.map Text.lower) :=
    hmatch.map fun s part hs hpart hpass => by
      refine (hcheck s hs part hpart).eq_ok_true_iff.mpr ?_
      rw [Text.toList_lower (hfold part hpart)]
      exact atomsMatch_lower_of_tokensMatch hpass
        (hneg s (Glob.mem_segments_of_glob_mem hs)) (hfold part hpart)
  have hdec : DecidesUnless (g.matchParts parts)
      (StepsMatch (Segment.Passes g.ignoreCase) g.steps.toList
        (parts.map fun t => if g.ignoreCase then Text.lower t else t)) fun _ => True :=
    g.matchParts_decidesUnless
      (fun _ _ => DecidesUnless.of_eq_ok_true_iff Iff.rfl fun _ _ => trivial) parts
  have hok : ∃ b, g.matchParts parts = .ok b :=
    g.matchParts_ok fun s hs part hpart =>
      let ⟨b, hb, _⟩ := hcheck s hs part hpart
      ⟨b, hb⟩
  exact (hdec.decides_of_ok hok).eq_ok_true_iff.mpr hlowered

/-- Ignoring case only widens what a parsed pattern matches, when it has no complemented bracket
class and every character of the path folds one to one: a path that it matches with case
respected, it matches with case ignored. -/
theorem Pattern.matchParts_ignoreCase_widens {line : String} {sourceFile : Option String}
    {lineNumber : Int} {p : Pattern}
    (hp : Pattern.ofLine line sourceFile lineNumber = .ok (some p)) (hneg : p.NoNegatedClass)
    {parts : List String}
    (hfold : ∀ part ∈ parts, ∀ c ∈ part.toList, Text.foldsSimply c = true)
    {isDirectory : Bool} (h : p.matchParts parts isDirectory false = .ok true) :
    p.matchParts parts isDirectory true = .ok true := by
  unfold Pattern.matchParts at h ⊢
  split at h
  · cases h
  · rename_i hdir
    rw [if_neg hdir]
    split at h
    · cases h
    · rename_i hempty
      rw [if_neg hempty]
      -- with case respected the path is in the language of the steps, which case does not change
      have hsteps : (Glob.ofPattern p true).steps = (Glob.ofPattern p false).steps := rfl
      have hmatch : StepsMatch Segment.Matches (Glob.ofPattern p true).steps.toList parts := by
        rw [hsteps]
        exact ((Glob.ofPattern p false).matchParts_decides rfl parts).eq_ok_true_iff.mp h
      exact Glob.matchParts_lower_of_stepsMatch (Pattern.literalsJoined_of_ofLine hp) hneg hfold
        hmatch

/-- `*.O` matches `A.O` with case respected, and so with case ignored. -/
theorem Pattern.matchParts_ignoreCase_widens_object :
    let p : Pattern :=
      { raw := "*.O", segments := [.glob "*.O" [.star, .lit ".O"]], anchored := false,
        directoryOnly := false, negated := false, sourceFile := none, lineNumber := 1 }
    Pattern.ofLine "*.O" none 1 = .ok (some p) ∧ p.NoNegatedClass ∧
      (∀ part ∈ ["A.O"], ∀ c ∈ part.toList, Text.foldsSimply c = true) ∧
      p.matchParts ["A.O"] false false = .ok true ∧
      p.matchParts ["A.O"] false true = .ok true := by
  intro p
  have hp : Pattern.ofLine "*.O" none 1 = .ok (some p) := by cbv
  have hneg : p.NoNegatedClass := by decide
  have hfold : ∀ part ∈ ["A.O"], ∀ c ∈ part.toList, Text.foldsSimply c = true := by
    simp only [List.mem_singleton, forall_eq, show "A.O".toList = ['A', '.', 'O'] by simp,
      List.forall_mem_cons]
    and_intros <;> decide +kernel
  have h : p.matchParts ["A.O"] false false = .ok true := by cbv
  exact ⟨hp, hneg, hfold, h, Pattern.matchParts_ignoreCase_widens hp hneg hfold h⟩

set_option maxRecDepth 20000 in
/-- The complemented class `[!a]` matches `A` with case respected but not with case ignored: with
case ignored the class of `a` admits `A`, so its complement does not. -/
theorem Pattern.matchParts_negatedClass_narrows :
    let p : Pattern :=
      { raw := "[!a]",
        segments :=
          [.glob "[!a]" [.cls { ranges := [('a', 'a')], classes := [], negated := true }]],
        anchored := false, directoryOnly := false, negated := false, sourceFile := none,
        lineNumber := 1 }
    Pattern.ofLine "[!a]" none 1 = .ok (some p) ∧
      p.matchParts ["A"] false false = .ok true ∧ p.matchParts ["A"] false true = .ok false := by
  intro p
  refine ⟨by cbv, by cbv, by cbv⟩

set_option maxRecDepth 20000 in
/-- The Kelvin sign does not fold one to one: it lowercases to `k`, whose uppercase form is `K`.
So the class holding the Kelvin sign admits it with case respected only: with case ignored it is
asked about `k` and `K`. -/
theorem Pattern.matchParts_kelvinClass_narrows :
    let p : Pattern :=
      { raw := "[\u212A]",
        segments :=
          [.glob "[\u212A]"
            [.cls { ranges := [('\u212A', '\u212A')], classes := [], negated := false }]],
        anchored := false, directoryOnly := false, negated := false, sourceFile := none,
        lineNumber := 1 }
    Pattern.ofLine "[\u212A]" none 1 = .ok (some p) ∧ p.NoNegatedClass ∧
      Text.foldsSimply '\u212A' = false ∧
      p.matchParts ["\u212A"] false false = .ok true ∧
      p.matchParts ["\u212A"] false true = .ok false := by
  intro p
  have hp : Pattern.ofLine "[\u212A]" none 1 = .ok (some p) := by
    rw [Pattern.ofLine]
    simp only [String.splitOn_slash]
    cbv
  exact ⟨hp, by decide, by decide +kernel, by cbv, by cbv⟩

set_option maxRecDepth 20000 in
/-- The dotted capital `İ` does not fold one to one: it lowercases to two characters, `i` and a
combining dot, which `?` does not match. -/
theorem Pattern.matchParts_dottedCapitalI_narrows :
    let p : Pattern :=
      { raw := "?", segments := [.glob "?" [.any]], anchored := false, directoryOnly := false,
        negated := false, sourceFile := none, lineNumber := 1 }
    Pattern.ofLine "?" none 1 = .ok (some p) ∧ p.NoNegatedClass ∧
      Text.foldsSimply 'İ' = false ∧
      p.matchParts ["İ"] false false = .ok true ∧ p.matchParts ["İ"] false true = .ok false := by
  intro p
  have hp : Pattern.ofLine "?" none 1 = .ok (some p) := by
    rw [Pattern.ofLine]
    simp only [String.splitOn_slash]
    cbv
  exact ⟨hp, by decide, by decide +kernel, by cbv, by cbv⟩

set_option maxRecDepth 20000 in
/-- The capital sigma does not fold one to one: its lowercase form depends on its neighbours.
After the cased `Α` it is final and lowercases to `ς`, while the lone `Σ` of the pattern `*Σ`
lowercases to `σ`; so `*Σ` matches `ΑΣ` with case respected only. -/
theorem Pattern.matchParts_finalSigma_narrows :
    let p : Pattern :=
      { raw := "*Σ", segments := [.glob "*Σ" [.star, .lit "Σ"]], anchored := false,
        directoryOnly := false, negated := false, sourceFile := none, lineNumber := 1 }
    Pattern.ofLine "*Σ" none 1 = .ok (some p) ∧ p.NoNegatedClass ∧
      Text.foldsSimply 'Σ' = false ∧ Text.lower "ΑΣ" = "ας" ∧ Text.lower "Σ" = "σ" ∧
      p.matchParts ["ΑΣ"] false false = .ok true ∧ p.matchParts ["ΑΣ"] false true = .ok false := by
  intro p
  have hp : Pattern.ofLine "*Σ" none 1 = .ok (some p) := by
    rw [Pattern.ofLine]
    simp only [String.splitOn_slash]
    cbv
  exact ⟨hp, by decide, by decide, by cbv, by cbv, by cbv, by cbv⟩

end IgnoreRules
