import IgnoreRules.Glob.Component
import Mathlib.Data.List.Forall2
import Mathlib.Data.String.Basic
import Mathlib.Logic.Basic

/-!
# The language of a component glob

A component glob (the tokens of one segment) stands for a set of components: literal text stands for
itself, `?` for one character, `*` for any run of characters, and a bracket class for one character
that it admits. `TokensMatch` states that language. The case-sensitive matcher of one component
decides it (matcher.py:38–117): the greedy single-star walk over the atoms of the glob, and the
shortcuts for a literal segment, a lone star, a star and a suffix, and a prefix and a star.

With case ignored a bracket class is asked about a character and its uppercase form, and the
control class fails on an uppercase form longer than one character. The walk then decides the
language of the atoms in which a class admits what its check accepts, unless that failure
reaches it.

## Main statements

- `CharClass.accepts_decides`: a bracket class admits a character when one of its ranges or
  named classes holds of it, exclusive-or its complement flag.
- `CharClass.accepts_eq_error`: a class fails only with case ignored, on the control class and
  an uppercase form that is not one character.
- `atomsMatch_ofTokens`: the atoms of a glob have the language of its tokens.
- `Atom.walk_decides_of`: the greedy walk decides the language of the atoms. A mismatch after a
  star lets that star take one more character; this loses nothing because the atoms since the
  star have one fixed length, so a later occurrence of them is the only hope left.
- `Atom.matchAll_decides_unless_long_uppercase`: the walk, with case respected or ignored,
  decides the language of the atoms or fails on a class and a long uppercase form.
- `Segment.matchComponent_decides`: the matcher of one component decides the language of the
  segment's tokens.
-/

namespace IgnoreRules

/-! ## Checks that decide a proposition -/

/-- A check decides `p` when it succeeds and answers whether `p` holds. -/
def Decides {ε : Type} (m : Except ε Bool) (p : Prop) : Prop :=
  ∃ b, m = .ok b ∧ (b = true ↔ p)

namespace Decides

variable {ε : Type} {m : Except ε Bool} {p q : Prop}

theorem of_pure {b : Bool} (h : b = true ↔ p) : Decides (pure b : Except ε Bool) p := ⟨b, rfl, h⟩

/-- A check that succeeds decides whether it answers yes. -/
theorem of_eq_ok {b : Bool} (h : m = .ok b) : Decides m (m = .ok true) :=
  ⟨b, h, by rw [h]; exact ⟨fun hb => hb ▸ rfl, Except.ok.inj⟩⟩

theorem congr (h : Decides m p) (hpq : p ↔ q) : Decides m q := by
  obtain ⟨b, hm, hb⟩ := h
  exact ⟨b, hm, hb.trans hpq⟩

/-- A decided check answers the one value that says whether `p` holds. -/
theorem eq_ok (h : Decides m p) {b : Bool} (hb : b = true ↔ p) : m = .ok b := by
  obtain ⟨b', rfl, hb'⟩ := h
  rw [Bool.eq_iff_iff.mpr (hb'.trans hb.symm)]

theorem eq_ok_true_iff (h : Decides m p) : m = .ok true ↔ p := by
  obtain ⟨b, rfl, hb⟩ := h
  rw [← hb]
  exact ⟨fun h => Except.ok.inj h, fun h => by rw [h]⟩

/-- Branching on a decided condition decides what both branches decide. -/
theorem bind_ite {A B : Except ε Bool} (h : Decides m p) (hA : p → Decides A q)
    (hB : ¬p → Decides B q) : Decides (m >>= fun b => if b = true then A else B) q := by
  obtain ⟨b, rfl, hb⟩ := h
  cases b with
  | true => exact hA (hb.mp rfl)
  | false => exact hB fun hp => Bool.false_ne_true (hb.mpr hp)

end Decides

/-- A check decides `p` unless it fails, and then with an error of which `bad` holds. -/
def DecidesUnless {ε : Type} (m : Except ε Bool) (p : Prop) (bad : ε → Prop) : Prop :=
  Decides m p ∨ ∃ e, m = .error e ∧ bad e

namespace DecidesUnless

variable {ε : Type} {m : Except ε Bool} {p q : Prop} {bad bad' : ε → Prop}

/-- A check whose yes is `p` and whose failures are `bad` decides `p` unless it fails. -/
theorem of_eq_ok_true_iff (h : m = .ok true ↔ p) (hbad : ∀ e, m = .error e → bad e) :
    DecidesUnless m p bad := by
  cases m with
  | ok b => exact Or.inl ⟨b, rfl, by rw [← h]; exact ⟨fun hb => hb ▸ rfl, Except.ok.inj⟩⟩
  | error e => exact Or.inr ⟨e, rfl, hbad e rfl⟩

theorem congr (h : DecidesUnless m p bad) (hpq : p ↔ q) : DecidesUnless m q bad :=
  h.imp (fun h => h.congr hpq) id

theorem mono (h : DecidesUnless m p bad) (hbad : ∀ e, bad e → bad' e) :
    DecidesUnless m p bad' :=
  h.imp id fun ⟨e, he, hb⟩ => ⟨e, he, hbad e hb⟩

/-- Branching on a condition decided unless it fails; a failure of the condition is the
failure of the whole. -/
theorem bind_ite {A B : Except ε Bool} (h : DecidesUnless m p bad)
    (hA : p → DecidesUnless A q bad) (hB : ¬p → DecidesUnless B q bad) :
    DecidesUnless (m >>= fun b => if b = true then A else B) q bad := by
  rcases h with ⟨b, rfl, hb⟩ | ⟨e, rfl, he⟩
  · cases b with
    | true => exact hA (hb.mp rfl)
    | false => exact hB fun hp => Bool.false_ne_true (hb.mpr hp)
  · exact Or.inr ⟨e, rfl, he⟩

/-- A check none of whose failures can happen decides. -/
theorem decides (h : DecidesUnless m p bad) (hbad : ∀ e, ¬bad e) : Decides m p :=
  h.resolve_right fun ⟨e, _, he⟩ => hbad e he

end DecidesUnless

/-! ## Bracket classes -/

/-- What the items of a bracket class name, before its complement flag: the characters of its
ranges and those of which one of its named classes holds. -/
def CharClass.Names (k : CharClass) (c : Char) : Prop :=
  (∃ r ∈ k.ranges, r.1 ≤ c ∧ c ≤ r.2) ∨ ∃ n ∈ k.classes, n.holds c.toString = .ok true

/-- A bracket class admits the characters it names, or, complemented, those it does not. -/
def CharClass.Admits (k : CharClass) (c : Char) : Prop :=
  Xor (k.Names c) (k.negated = true)

/-- One character is compared with the bounds of a range as a text of one character. -/
theorem Char.toString_le_toString {c d : Char} : c.toString ≤ d.toString ↔ c ≤ d := by
  change ¬ d.toString < c.toString ↔ c ≤ d
  rw [String.lt_iff_toList_lt]
  simp only [Char.toString, String.toList_singleton, List.cons_lt_cons_iff, List.not_lt_nil,
    and_false, or_false, not_lt]

/-- A named class never fails on one character: only the control class looks at the length. -/
theorem NamedClass.holds_char (n : NamedClass) (c : Char) : ∃ b, n.holds c.toString = .ok b := by
  cases n with
  | cntrl =>
    have hc : c.toString.toList = [c] := String.toList_singleton c
    exact ⟨_, by rw [NamedClass.holds, hc]; rfl⟩
  | _ => exact ⟨_, rfl⟩

theorem anyClassHolds_decides (c : Char) (ns : List NamedClass) :
    Decides (anyClassHolds c.toString ns) (∃ n ∈ ns, n.holds c.toString = .ok true) := by
  induction ns with
  | nil => exact Decides.of_pure (by simp)
  | cons n ns ih =>
    obtain ⟨b, hb⟩ := n.holds_char c
    refine Decides.bind_ite (Decides.of_eq_ok hb)
      (fun hn => Decides.of_pure (iff_of_true rfl ⟨n, List.mem_cons_self, hn⟩))
      (fun hn => ih.congr ?_)
    simp only [List.mem_cons, exists_eq_or_imp, hb]
    constructor
    · exact Or.inr
    · rintro (h | h)
      · exact absurd (hb.trans h) hn
      · exact h

theorem CharClass.hitBy_decides (k : CharClass) (c : Char) :
    Decides (k.hitBy c.toString) (k.Names c) := by
  unfold CharClass.hitBy
  split
  · rename_i hr
    refine Decides.of_pure (iff_of_true rfl (Or.inl ?_))
    obtain ⟨r, hr, hin⟩ := List.any_eq_true.mp hr
    simp only [Bool.and_eq_true, decide_eq_true_eq, Char.toString_le_toString] at hin
    exact ⟨r, hr, hin⟩
  · rename_i hr
    refine (anyClassHolds_decides c k.classes).congr ⟨Or.inr, ?_⟩
    rintro (⟨r, hmem, hin⟩ | h)
    · refine absurd (List.any_eq_true.mpr ⟨r, hmem, ?_⟩) hr
      simp only [Bool.and_eq_true, decide_eq_true_eq, Char.toString_le_toString]
      exact hin
    · exact h

/-- Only the control class fails, and only on a text that is not one character. -/
theorem NamedClass.holds_eq_error {n : NamedClass} {s : String} {e : MatchError}
    (h : n.holds s = .error e) : n = .cntrl ∧ s.length ≠ 1 ∧ e = .notOneCharacter s.length := by
  cases n with
  | cntrl =>
    rw [← String.length_toList]
    simp only [NamedClass.holds] at h
    split at h
    · cases h
    · rename_i hone
      refine ⟨rfl, fun hlen => ?_, (Except.error.inj h).symm⟩
      obtain ⟨c, hc⟩ := List.length_eq_one_iff.mp hlen
      exact hone c hc
  | _ => cases h

theorem anyClassHolds_eq_error {s : String} {ns : List NamedClass} {e : MatchError}
    (h : anyClassHolds s ns = .error e) :
    .cntrl ∈ ns ∧ s.length ≠ 1 ∧ e = .notOneCharacter s.length := by
  induction ns with
  | nil => cases h
  | cons n ns ih =>
    simp only [anyClassHolds] at h
    cases hn : n.holds s with
    | error e' =>
      rw [hn] at h
      obtain ⟨rfl, hlen, rfl⟩ := NamedClass.holds_eq_error hn
      exact ⟨List.mem_cons_self, hlen, (Except.error.inj h).symm⟩
    | ok b =>
      rw [hn] at h
      cases b with
      | true => cases h
      | false =>
        obtain ⟨hmem, hlen, he⟩ := ih h
        exact ⟨List.mem_cons_of_mem n hmem, hlen, he⟩

theorem CharClass.hitBy_eq_error {k : CharClass} {s : String} {e : MatchError}
    (h : k.hitBy s = .error e) :
    .cntrl ∈ k.classes ∧ s.length ≠ 1 ∧ e = .notOneCharacter s.length := by
  unfold CharClass.hitBy at h
  split at h
  · cases h
  · exact anyClassHolds_eq_error h

theorem CharClass.hitByAny_eq_error {k : CharClass} {ss : List String} {e : MatchError}
    (h : k.hitByAny ss = .error e) : ∃ s ∈ ss, k.hitBy s = .error e := by
  induction ss with
  | nil => cases h
  | cons s ss ih =>
    simp only [CharClass.hitByAny] at h
    cases hs : k.hitBy s with
    | error e' =>
      rw [hs] at h
      exact ⟨s, List.mem_cons_self, hs.trans h⟩
    | ok b =>
      rw [hs] at h
      cases b with
      | true => cases h
      | false =>
        obtain ⟨t, ht, hte⟩ := ih h
        exact ⟨t, List.mem_cons_of_mem s ht, hte⟩

/-- A bracket class fails only with case ignored, when it names the control class and the
uppercase form of the character, its second candidate, is not one character. -/
theorem CharClass.accepts_eq_error {k : CharClass} {c : Char} {ic : Bool} {e : MatchError}
    (h : k.accepts c ic = .error e) :
    ic = true ∧ .cntrl ∈ k.classes ∧ (Text.upper c.toString).length ≠ 1 ∧
      e = .notOneCharacter (Text.upper c.toString).length := by
  have hany : k.hitByAny (if ic then [c.toString, Text.upper c.toString] else [c.toString]) =
      .error e := by
    simp only [CharClass.accepts] at h
    cases hh : k.hitByAny (if ic then [c.toString, Text.upper c.toString] else [c.toString]) with
    | ok b =>
      rw [hh] at h
      cases h
    | error e' =>
      rw [hh] at h
      exact h
  obtain ⟨s, hs, hse⟩ := CharClass.hitByAny_eq_error hany
  -- the character itself never fails: the failing candidate is its uppercase form
  have hchar : s ≠ c.toString := by
    rintro rfl
    obtain ⟨b, hb, -⟩ := k.hitBy_decides c
    rw [hb] at hse
    cases hse
  cases ic with
  | false => exact absurd (List.mem_singleton.mp hs) hchar
  | true =>
    have hup : s = Text.upper c.toString := by
      simp only [ite_true, List.mem_cons, List.not_mem_nil, or_false] at hs
      exact hs.resolve_left hchar
    subst hup
    obtain ⟨hmem, hlen, he⟩ := CharClass.hitBy_eq_error hse
    exact ⟨rfl, hmem, hlen, he⟩

/-! ## The languages of tokens and of atoms -/

/-- The language of a component glob: literal text stands for itself, `?` for one character,
`*` for any run of characters and a bracket class for one character that it admits. -/
inductive TokensMatch : List Token → List Char → Prop
  | nil : TokensMatch [] []
  | lit {t : String} {ts : List Token} {cs : List Char} :
      TokensMatch ts cs → TokensMatch (.lit t :: ts) (t.toList ++ cs)
  | any {c : Char} {ts : List Token} {cs : List Char} :
      TokensMatch ts cs → TokensMatch (.any :: ts) (c :: cs)
  | star {w : List Char} {ts : List Token} {cs : List Char} :
      TokensMatch ts cs → TokensMatch (.star :: ts) (w ++ cs)
  | cls {k : CharClass} {c : Char} {ts : List Token} {cs : List Char} :
      k.Admits c → TokensMatch ts cs → TokensMatch (.cls k :: ts) (c :: cs)

/-- The characters an atom other than a star accepts, with case ignored (`ic`) or not: a
character itself (with case ignored, glob and component are both lowercased beforehand), `?`
every character, and a bracket class those its check accepts; a star stands for no single
character. -/
def Atom.Admits (ic : Bool) : Atom → Char → Prop
  | .char d, c => d = c
  | .any, _ => True
  | .star, _ => False
  | .cls k, c => k.accepts c ic = .ok true

/-- The language of a list of atoms: a star takes any run of characters, every other atom one
character that it admits. -/
inductive AtomsMatch (ic : Bool) : List Atom → List Char → Prop
  | nil : AtomsMatch ic [] []
  | star {w : List Char} {A : List Atom} {cs : List Char} :
      AtomsMatch ic A cs → AtomsMatch ic (.star :: A) (w ++ cs)
  | one {a : Atom} {c : Char} {A : List Atom} {cs : List Char} :
      a.Admits ic c → AtomsMatch ic A cs → AtomsMatch ic (a :: A) (c :: cs)

theorem Atom.ne_star_of_admits {ic : Bool} {a : Atom} {c : Char} (h : a.Admits ic c) :
    a ≠ .star := by
  rintro rfl
  exact h

theorem Atom.forall_ne_star_of_forall₂ {ic : Bool} {B : List Atom} {W : List Char}
    (h : List.Forall₂ (Atom.Admits ic) B W) : ∀ a ∈ B, a ≠ .star := by
  induction h with
  | nil => simp
  | cons hab _ ih =>
    intro a ha
    rcases List.mem_cons.mp ha with rfl | ha
    · exact Atom.ne_star_of_admits hab
    · exact ih a ha

namespace AtomsMatch

variable {ic : Bool} {A B : List Atom} {cs W : List Char}

theorem nil_left_iff : AtomsMatch ic [] cs ↔ cs = [] := by
  constructor
  · rintro ⟨⟩
    rfl
  · rintro rfl
    exact .nil

theorem star_iff :
    AtomsMatch ic (.star :: A) cs ↔ ∃ w rest, cs = w ++ rest ∧ AtomsMatch ic A rest := by
  constructor
  · intro h
    cases h with
    | star h => exact ⟨_, _, rfl, h⟩
    | one ha _ => exact ha.elim
  · rintro ⟨w, rest, rfl, h⟩
    exact .star h

theorem cons_iff {a : Atom} (ha : a ≠ .star) :
    AtomsMatch ic (a :: A) cs ↔
      ∃ c rest, cs = c :: rest ∧ a.Admits ic c ∧ AtomsMatch ic A rest := by
  constructor
  · intro h
    cases h with
    | star _ => exact absurd rfl ha
    | one hc h => exact ⟨_, _, rfl, hc, h⟩
  · rintro ⟨c, rest, rfl, hc, h⟩
    exact .one hc h

/-- The empty text matches exactly the atoms that are all stars. -/
theorem nil_right_iff : AtomsMatch ic A [] ↔ ∀ a ∈ A, a = .star := by
  induction A with
  | nil => simp [nil_left_iff]
  | cons a A ih =>
    by_cases ha : a = .star
    · subst ha
      rw [star_iff]
      simp only [List.nil_eq_append_iff, List.mem_cons, forall_eq_or_imp, true_and]
      constructor
      · rintro ⟨w, rest, ⟨-, rfl⟩, h⟩
        exact ih.mp h
      · intro h
        exact ⟨[], [], ⟨rfl, rfl⟩, ih.mpr h⟩
    · rw [cons_iff ha]
      simp only [reduceCtorEq, false_and, exists_false, List.mem_cons, forall_eq_or_imp, ha]

/-- A star before a character either takes it or takes nothing. -/
theorem star_cons_iff {c : Char} :
    AtomsMatch ic (.star :: A) (c :: cs) ↔
      AtomsMatch ic (.star :: A) cs ∨ AtomsMatch ic A (c :: cs) := by
  rw [star_iff, star_iff]
  constructor
  · rintro ⟨w, rest, hcs, h⟩
    cases w with
    | nil => exact Or.inr (by rw [hcs]; exact h)
    | cons d w =>
      obtain ⟨rfl, rfl⟩ := List.cons.inj hcs
      exact Or.inl ⟨w, rest, rfl, h⟩
  · rintro (⟨w, rest, rfl, h⟩ | h)
    · exact ⟨c :: w, rest, rfl, h⟩
    · exact ⟨[], c :: cs, rfl, h⟩

theorem cons_cons_iff {a : Atom} {c : Char} (ha : a ≠ .star) :
    AtomsMatch ic (a :: A) (c :: cs) ↔ a.Admits ic c ∧ AtomsMatch ic A cs := by
  rw [cons_iff ha]
  constructor
  · rintro ⟨d, rest, heq, hd, h⟩
    obtain ⟨rfl, rfl⟩ := List.cons.inj heq
    exact ⟨hd, h⟩
  · rintro ⟨hc, h⟩
    exact ⟨c, cs, rfl, hc, h⟩

/-- Atoms that are not stars take one character each. -/
theorem append_iff (hB : ∀ a ∈ B, a ≠ .star) :
    AtomsMatch ic (B ++ A) cs ↔
      ∃ W rest, cs = W ++ rest ∧ List.Forall₂ (Atom.Admits ic) B W ∧ AtomsMatch ic A rest := by
  induction B generalizing cs with
  | nil =>
    constructor
    · intro h
      exact ⟨[], cs, rfl, .nil, h⟩
    · rintro ⟨W, rest, rfl, hW, h⟩
      cases hW
      exact h
  | cons a B ih =>
    rw [List.cons_append, cons_iff (hB a List.mem_cons_self)]
    constructor
    · rintro ⟨c, rest, rfl, hc, h⟩
      obtain ⟨W, rest', rfl, hW, h⟩ := (ih fun b hb => hB b (List.mem_cons_of_mem a hb)).mp h
      exact ⟨c :: W, rest', rfl, .cons hc hW, h⟩
    · rintro ⟨W, rest, rfl, hW, h⟩
      cases hW with
      | cons hc hW =>
        exact ⟨_, _, rfl, hc, (ih fun b hb => hB b (List.mem_cons_of_mem a hb)).mpr
          ⟨_, _, rfl, hW, h⟩⟩

/-- A run of atoms that are not stars, set against characters it accepts, consumes exactly
those characters. -/
theorem append_iff_of_forall₂ (hB : List.Forall₂ (Atom.Admits ic) B W) :
    AtomsMatch ic (B ++ A) (W ++ cs) ↔ AtomsMatch ic A cs := by
  rw [append_iff (Atom.forall_ne_star_of_forall₂ hB)]
  constructor
  · rintro ⟨W', rest, hcs, hW', h⟩
    have hlen : W.length = W'.length := hB.length_eq.symm.trans hW'.length_eq
    obtain ⟨-, rfl⟩ := List.append_inj hcs hlen
    exact h
  · intro h
    exact ⟨W, cs, rfl, hB, h⟩

end AtomsMatch

/-- With case respected, a bracket class accepts exactly the characters it admits. -/
theorem CharClass.accepts_decides (k : CharClass) (c : Char) :
    Decides (k.accepts c false) (k.Admits c) := by
  obtain ⟨b, hb, hiff⟩ := k.hitBy_decides c
  have hany : k.hitByAny [c.toString] = .ok b := by
    rw [CharClass.hitByAny, hb]
    cases b <;> rfl
  have hacc : k.accepts c false = .ok (b != k.negated) := by
    simp only [CharClass.accepts, Bool.false_eq_true, ite_false, hany]
    rfl
  refine ⟨b != k.negated, hacc, ?_⟩
  rw [CharClass.Admits, ← hiff]
  cases b <;> cases k.negated <;> simp [Xor]

/-- An atom other than a star answers yes exactly on the characters it admits. -/
theorem Atom.accepts_eq_ok_true_iff {a : Atom} (ha : a ≠ .star) (c : Char) (ic : Bool) :
    a.accepts c ic = .ok true ↔ a.Admits ic c := by
  cases a with
  | char d =>
    show (Except.ok (d == c) : Except MatchError Bool) = .ok true ↔ d = c
    rw [Except.ok.injEq, beq_iff_eq]
  | any => exact iff_of_true rfl trivial
  | star => exact absurd rfl ha
  | cls k => exact Iff.rfl

/-- An atom other than a star decides whether it admits a character, unless it is a bracket
class that fails on it. -/
theorem Atom.accepts_decidesUnless {a : Atom} (ha : a ≠ .star) (c : Char) (ic : Bool) :
    DecidesUnless (a.accepts c ic) (a.Admits ic c)
      fun e => ∃ k, a = .cls k ∧ k.accepts c ic = .error e := by
  refine DecidesUnless.of_eq_ok_true_iff (Atom.accepts_eq_ok_true_iff ha c ic) fun e he => ?_
  cases a with
  | cls k => exact ⟨k, rfl, he⟩
  | char d => cases he
  | any => cases he
  | star => exact absurd rfl ha

/-- With case respected, a bracket class atom admits the characters its class admits. -/
theorem Atom.admits_cls_false {k : CharClass} {c : Char} :
    (Atom.cls k).Admits false c ↔ k.Admits c :=
  (k.accepts_decides c).eq_ok_true_iff

/-- The suffix of a list from a position that holds `a`. -/
theorem drop_eq_cons_of_getElem? {α : Type} {l : List α} {n : Nat} {a : α} (h : l[n]? = some a) :
    l.drop n = a :: l.drop (n + 1) := by
  obtain ⟨hlt, rfl⟩ := List.getElem?_eq_some_iff.mp h
  exact List.drop_eq_getElem_cons hlt

/-! ## The shapes the greedy walk relies on -/

namespace AtomsMatch

variable {ic : Bool} {A B R : List Atom} {W U : List Char}

/-- After a star, a run of atoms that are not stars and a second star, the first star may as
well take nothing: whatever it takes, the second star can take instead. This is why the walk
forgets a star once it reaches the next one. -/
theorem star_append_star_iff (hB : List.Forall₂ (Atom.Admits ic) B W) :
    AtomsMatch ic (.star :: (B ++ .star :: R)) (W ++ U) ↔ AtomsMatch ic (.star :: R) U := by
  constructor
  · intro h
    obtain ⟨w, V, hwV, hrun⟩ := star_iff.mp h
    obtain ⟨W', V', rfl, hW', hstar⟩ := (append_iff (Atom.forall_ne_star_of_forall₂ hB)).mp hrun
    obtain ⟨w', V'', rfl, hR⟩ := star_iff.mp hstar
    have hlen : W.length = W'.length := hB.length_eq.symm.trans hW'.length_eq
    simp only [← List.append_assoc] at hwV
    rcases List.append_eq_append_iff.mp hwV with ⟨a', -, rfl⟩ | ⟨c', hW, rfl⟩
    · exact .star hR
    · -- the text taken by both stars and the run fits in `W`, which the run alone fills
      have hc' : c' = [] := by
        have := congrArg List.length hW
        simp only [List.length_append] at this
        exact List.eq_nil_of_length_eq_zero (by omega)
      subst hc'
      exact .star (w := []) hR
  · intro h
    exact .star (w := []) ((append_iff_of_forall₂ hB).mpr h)

/-- If the atoms after a star's run cannot go on from the character after the run, the star has
to take the character it stands at. -/
theorem star_append_skip_iff (hB : List.Forall₂ (Atom.Admits ic) B W) {c d : Char}
    {rest : List Char}
    (hR : ¬AtomsMatch ic R (c :: U)) (h : d :: rest = W ++ c :: U) :
    AtomsMatch ic (.star :: (B ++ R)) (d :: rest) ↔ AtomsMatch ic (.star :: (B ++ R)) rest := by
  rw [star_cons_iff, h, append_iff_of_forall₂ hB]
  exact or_iff_left hR

/-- Once the text is used up by a star's run, the atoms after the run see only the empty text. -/
theorem star_append_end_iff (hB : List.Forall₂ (Atom.Admits ic) B W) :
    AtomsMatch ic (.star :: (B ++ R)) W ↔ AtomsMatch ic R [] := by
  constructor
  · intro h
    obtain ⟨w, V, hwV, hrun⟩ := star_iff.mp h
    obtain ⟨W', V', rfl, hW', hR⟩ := (append_iff (Atom.forall_ne_star_of_forall₂ hB)).mp hrun
    have hlen : W.length = W'.length := hB.length_eq.symm.trans hW'.length_eq
    have hV' : V' = [] := by
      have := congrArg List.length hwV
      simp only [List.length_append] at this
      exact List.eq_nil_of_length_eq_zero (by omega)
    subst hV'
    exact hR
  · intro h
    have hrun : AtomsMatch ic (B ++ R) (W ++ []) := (append_iff_of_forall₂ hB).mpr h
    rw [List.append_nil] at hrun
    exact .star (w := []) hrun

end AtomsMatch

/-! ## The greedy walk -/

namespace Atom

variable (ic : Bool) (A : List Atom) (T : List Char)

/-- What the walk knows after the star at `q`: atom `q` is that star, and the atoms after it up
to `p` accept, one each, the characters from `start` up to `start + k`. -/
def SinceStar (q p start k : Nat) : Prop :=
  A.drop q = .star :: A.drop (q + 1) ∧
    ∃ B W, A.drop (q + 1) = B ++ A.drop p ∧ T.drop start = W ++ T.drop (start + k) ∧
      List.Forall₂ (Atom.Admits ic) B W

/-- What the walk assumes of a state: nothing before the first star, `SinceStar` after one. -/
def walkInv : Option Nat → Nat → Nat → Nat → Prop
  | none, _, _, _ => True
  | some q, p, start, k => SinceStar ic A T q p start k

/-- What the walk decides from a state: before the first star, whether the atoms from `p` match
the text from `start + k`; after the star at `q`, whether the atoms from that star match the text
from where the star began. -/
def walkGoal : Option Nat → Nat → Nat → Nat → Prop
  | none, p, start, k => AtomsMatch ic (A.drop p) (T.drop (start + k))
  | some q, _, start, _ => AtomsMatch ic (A.drop q) (T.drop start)

/-- How the walk can fail: a bracket class among the atoms fails on a character of the text. -/
def ClassFails (e : MatchError) : Prop :=
  ∃ k c, .cls k ∈ A ∧ c ∈ T ∧ k.accepts c ic = .error e

variable {ic A T}

theorem sinceStar_start {q : Nat} (start : Nat) (hq : A.drop q = .star :: A.drop (q + 1)) :
    SinceStar ic A T q (q + 1) start 0 :=
  ⟨hq, [], [], rfl, by simp, .nil⟩

theorem SinceStar.extend {q p start k : Nat} (h : SinceStar ic A T q p start k) {a : Atom}
    (hp : A[p]? = some a) (hk : start + k < T.length) (ha : a.Admits ic T[start + k]) :
    SinceStar ic A T q (p + 1) start (k + 1) := by
  obtain ⟨hq, B, W, hB, hW, hBW⟩ := h
  obtain ⟨hlt, rfl⟩ := List.getElem?_eq_some_iff.mp hp
  refine ⟨hq, B ++ [A[p]], W ++ [T[start + k]], ?_, ?_, List.rel_append hBW (.cons ha .nil)⟩
  · rw [hB, List.drop_eq_getElem_cons hlt, List.append_assoc, List.singleton_append]
  · rw [hW, List.drop_eq_getElem_cons hk, List.append_assoc, List.singleton_append,
      Nat.add_assoc]

/-- At a star, the walk forgets the star before it: the search from that star reduces to the
search from the new one. -/
theorem SinceStar.star_iff {q p start k : Nat} (h : SinceStar ic A T q p start k)
    (hp : A.drop p = .star :: A.drop (p + 1)) :
    AtomsMatch ic (A.drop q) (T.drop start) ↔ AtomsMatch ic (A.drop p) (T.drop (start + k)) := by
  obtain ⟨hq, B, W, hB, hW, hBW⟩ := h
  rw [hq, hB, hW, hp]
  exact AtomsMatch.star_append_star_iff hBW

/-- When the atoms from `p` cannot go on from the character at `start + k`, the last star
takes one more character. -/
theorem SinceStar.restart_iff {q p start k : Nat} (h : SinceStar ic A T q p start k)
    (hk : start + k < T.length) (hR : ¬AtomsMatch ic (A.drop p) (T.drop (start + k))) :
    AtomsMatch ic (A.drop q) (T.drop start) ↔ AtomsMatch ic (A.drop q) (T.drop (start + 1)) := by
  obtain ⟨hq, B, W, hB, hW, hBW⟩ := h
  have hs : T.drop start = T[start] :: T.drop (start + 1) := List.drop_eq_getElem_cons (by omega)
  have htk : T.drop (start + k) = T[start + k] :: T.drop (start + k + 1) :=
    List.drop_eq_getElem_cons hk
  rw [htk] at hR
  rw [hq, hB, hs]
  exact AtomsMatch.star_append_skip_iff hBW hR (by rw [← hs, hW, htk])

/-- At the end of the text, the search from the last star succeeds exactly when the atoms
from `p` match the empty text. -/
theorem SinceStar.end_iff {q p start k : Nat} (h : SinceStar ic A T q p start k)
    (hk : T.length ≤ start + k) :
    AtomsMatch ic (A.drop q) (T.drop start) ↔ AtomsMatch ic (A.drop p) [] := by
  obtain ⟨hq, B, W, hB, hW, hBW⟩ := h
  rw [List.drop_eq_nil_of_le hk, List.append_nil] at hW
  rw [hq, hB, hW]
  exact AtomsMatch.star_append_end_iff hBW

theorem restAreStars_iff (ic : Bool) (p : Nat) :
    restAreStars A.toArray p = true ↔ AtomsMatch ic (A.drop p) [] := by
  simp only [restAreStars, List.all_eq_true, beq_iff_eq, AtomsMatch.nil_right_iff]

/-- Atoms used up before the text match nothing. -/
theorem not_atomsMatch_drop_of_le {p i : Nat} (hp : A.length ≤ p) (hi : i < T.length) :
    ¬AtomsMatch ic (A.drop p) (T.drop i) := by
  rw [List.drop_eq_nil_of_le hp, AtomsMatch.nil_left_iff]
  exact fun h => absurd (List.drop_eq_nil_iff.mp h) (by omega)

/-- The greedy walk decides, from every state it reaches, what `walkGoal` says, unless a
bracket class fails on a character. -/
theorem walk_decides_of (ic : Bool) (A : List Atom) (T : List Char) (p : Nat)
    (lastStar : Option Nat) (start k : Nat) : walkInv ic A T lastStar p start k →
      DecidesUnless (walk A.toArray T.toArray ic p lastStar start k)
        (walkGoal ic A T lastStar p start k) (ClassFails ic A T) := by
  fun_induction walk A.toArray T.toArray ic p lastStar start k with
  | case1 p lastStar start k hk hp ih =>
    -- a star: the search goes on from it
    simp only [List.size_toArray, List.getElem?_toArray] at hk hp
    intro hinv
    have hpa := drop_eq_cons_of_getElem? hp
    refine (ih (sinceStar_start _ hpa)).congr ?_
    cases lastStar with
    | none => exact Iff.rfl
    | some q => exact (SinceStar.star_iff hinv hpa).symm
  | case2 p lastStar start k hk a ha hp ih2 ih1 =>
    simp only [List.size_toArray, List.getElem?_toArray] at hk hp
    intro hinv
    have hpa := drop_eq_cons_of_getElem? hp
    have htk : T.drop (start + k) = T[start + k] :: T.drop (start + k + 1) :=
      List.drop_eq_getElem_cons hk
    -- a class that fails here is a class of the atoms failing on a character of the text
    have hfail : ∀ e, (∃ cls, a = .cls cls ∧ cls.accepts T.toArray[start + k] ic = .error e) →
        ClassFails ic A T e := by
      rintro e ⟨cls, rfl, he⟩
      rw [List.getElem_toArray] at he
      exact ⟨cls, T[start + k], List.mem_of_getElem? hp, List.getElem_mem hk, he⟩
    have hacc := (Atom.accepts_decidesUnless ha T.toArray[start + k] ic).mono hfail
    refine DecidesUnless.bind_ite hacc (fun hadm => ?_) (fun hadm => ?_)
    · -- the atom accepts the character: both advance
      simp only [List.getElem_toArray] at hadm
      cases lastStar with
      | none =>
        refine (ih2 trivial).congr ?_
        simp only [walkGoal]
        rw [hpa, htk, AtomsMatch.cons_cons_iff ha, Nat.add_assoc]
        exact (and_iff_right hadm).symm
      | some q => exact ih2 (hinv.extend hp hk hadm)
    · -- a mismatch: fall back on the last star, if there is one
      simp only [List.getElem_toArray] at hadm
      have hR : ¬AtomsMatch ic (A.drop p) (T.drop (start + k)) := by
        rw [hpa, htk, AtomsMatch.cons_cons_iff ha]
        exact fun h => hadm h.1
      cases lastStar with
      | none => exact Or.inl (Decides.of_pure (iff_of_false Bool.false_ne_true hR))
      | some q =>
        exact (ih1 q (sinceStar_start _ hinv.1)).congr (hinv.restart_iff hk hR).symm
  | case3 p start k hk hp q ih =>
    -- the atoms ran out before the text: fall back on the last star
    simp only [List.size_toArray, List.getElem?_toArray, List.getElem?_eq_none_iff] at hk hp
    intro hinv
    have hR : ¬AtomsMatch ic (A.drop p) (T.drop (start + k)) := not_atomsMatch_drop_of_le hp hk
    exact (ih (sinceStar_start _ hinv.1)).congr (hinv.restart_iff hk hR).symm
  | case4 p start k hk hp =>
    simp only [List.size_toArray, List.getElem?_toArray, List.getElem?_eq_none_iff] at hk hp
    intro _
    exact Or.inl
      (Decides.of_pure (iff_of_false Bool.false_ne_true (not_atomsMatch_drop_of_le hp hk)))
  | case5 p lastStar start k hk =>
    -- the text is used up: the rest of the atoms must all be stars
    simp only [List.size_toArray, Nat.not_lt] at hk
    intro hinv
    refine Or.inl (Decides.of_pure ((restAreStars_iff ic p).trans ?_))
    cases lastStar with
    | none =>
      simp only [walkGoal]
      rw [List.drop_eq_nil_of_le hk]
    | some q => exact (SinceStar.end_iff hinv hk).symm

/-- The greedy walk decides the language of the atoms unless a bracket class fails on a
character of the text. -/
theorem matchAll_decidesUnless (A : List Atom) (text : String) (ic : Bool) :
    DecidesUnless (matchAll A text ic) (AtomsMatch ic A text.toList)
      (ClassFails ic A text.toList) := by
  have h := walk_decides_of ic A text.toList 0 none 0 0 trivial
  simp only [walkGoal, List.drop_zero, Nat.add_zero] at h
  exact h

/-- With case respected, the greedy walk decides the language of the atoms. -/
theorem matchAll_decides (A : List Atom) (text : String) :
    Decides (matchAll A text false) (AtomsMatch false A text.toList) :=
  (matchAll_decidesUnless A text false).decides fun _ ⟨_, _, _, _, he⟩ =>
    Bool.false_ne_true (CharClass.accepts_eq_error he).1

/-- The greedy walk, with case respected or ignored, answers whether the text is in the
language of the atoms. It fails only with case ignored, when a bracket class that names the
control class meets a character of the text whose uppercase form is not one character; the
error then gives the length of that form. -/
theorem matchAll_decides_unless_long_uppercase (A : List Atom) (text : String) (ic : Bool) :
    Decides (matchAll A text ic) (AtomsMatch ic A text.toList) ∨
      ∃ k c, .cls k ∈ A ∧ c ∈ text.toList ∧ ic = true ∧ NamedClass.cntrl ∈ k.classes ∧
        (Text.upper c.toString).length ≠ 1 ∧
        matchAll A text ic = .error (.notOneCharacter (Text.upper c.toString).length) := by
  rcases matchAll_decidesUnless A text ic with h | ⟨e, he, k, c, hk, hc, hacc⟩
  · exact Or.inl h
  · obtain ⟨hic, hcntrl, hlen, rfl⟩ := CharClass.accepts_eq_error hacc
    exact Or.inr ⟨k, c, hk, hc, hic, hcntrl, hlen, he⟩

end Atom


/-! ## Tokens as atoms -/

theorem Atom.forall₂_map_char_iff {ic : Bool} {l W : List Char} :
    List.Forall₂ (Atom.Admits ic) (l.map Atom.char) W ↔ W = l := by
  induction l generalizing W with
  | nil => simp
  | cons c l ih =>
    cases W with
    | nil => simp
    | cons d W =>
      simp only [List.map_cons, List.forall₂_cons, ih, List.cons.injEq]
      exact ⟨fun ⟨hcd, hW⟩ => ⟨hcd.symm, hW⟩, fun ⟨hdc, hW⟩ => ⟨hdc.symm, hW⟩⟩

/-- The atoms of a glob, case respected, have the language of its tokens. -/
theorem atomsMatch_ofTokens (ts : List Token) (cs : List Char) :
    AtomsMatch false (Atom.ofTokens ts false) cs ↔ TokensMatch ts cs := by
  induction ts generalizing cs with
  | nil =>
    simp only [Atom.ofTokens, List.flatMap_nil, AtomsMatch.nil_left_iff]
    constructor
    · rintro rfl
      exact .nil
    · rintro ⟨⟩
      rfl
  | cons t ts ih =>
    have hts : Atom.ofTokens (t :: ts) false =
        Atom.ofTokens [t] false ++ Atom.ofTokens ts false := by
      simp [Atom.ofTokens]
    rw [hts]
    cases t with
    | lit t =>
      have hnostar : ∀ a ∈ Atom.ofTokens [.lit t] false, a ≠ .star := by
        simp [Atom.ofTokens]
      rw [AtomsMatch.append_iff hnostar]
      simp only [Atom.ofTokens, List.flatMap_cons, List.flatMap_nil, List.append_nil,
        Bool.false_eq_true, ite_false, Atom.forall₂_map_char_iff]
      constructor
      · rintro ⟨W, rest, rfl, rfl, h⟩
        exact .lit ((ih rest).mp h)
      · intro h
        cases h with
        | lit h => exact ⟨_, _, rfl, rfl, (ih _).mpr h⟩
    | any =>
      show AtomsMatch false (.any :: Atom.ofTokens ts false) cs ↔ _
      rw [AtomsMatch.cons_iff (by decide)]
      constructor
      · rintro ⟨c, rest, rfl, -, h⟩
        exact .any ((ih rest).mp h)
      · intro h
        cases h with
        | any h => exact ⟨_, _, rfl, trivial, (ih _).mpr h⟩
    | star =>
      show AtomsMatch false (.star :: Atom.ofTokens ts false) cs ↔ _
      rw [AtomsMatch.star_iff]
      constructor
      · rintro ⟨w, rest, rfl, h⟩
        exact .star ((ih rest).mp h)
      · intro h
        cases h with
        | star h => exact ⟨_, _, rfl, (ih _).mpr h⟩
    | cls k =>
      show AtomsMatch false (.cls k :: Atom.ofTokens ts false) cs ↔ _
      rw [AtomsMatch.cons_iff Atom.noConfusion]
      constructor
      · rintro ⟨c, rest, rfl, hc, h⟩
        exact .cls (Atom.admits_cls_false.mp hc) ((ih rest).mp h)
      · intro h
        cases h with
        | cls hc h => exact ⟨_, _, rfl, Atom.admits_cls_false.mpr hc, (ih _).mpr h⟩

/-! ## One component against a segment -/

theorem Segment.literalText_glob_nil (text : String) : (Segment.glob text []).literalText = "" :=
  rfl

theorem Segment.literalText_glob_cons_lit (text t : String) (ts : List Token) :
    (Segment.glob text (.lit t :: ts)).literalText = t ++ (Segment.glob text ts).literalText := by
  simp [Segment.literalText, Segment.tokens]

/-- Tokens that are all literal text match exactly their texts joined. -/
theorem Segment.tokensMatch_iff_of_isLiteral {s : Segment} (hs : s.isLiteral = true)
    (cs : List Char) : TokensMatch s.tokens cs ↔ cs = s.literalText.toList := by
  cases s with
  | globstar => cases hs
  | glob text ts =>
    simp only [Segment.isLiteral, List.all_eq_true] at hs
    simp only [Segment.tokens]
    induction ts generalizing cs with
    | nil =>
      rw [literalText_glob_nil, String.toList_empty]
      constructor
      · rintro ⟨⟩
        rfl
      · rintro rfl
        exact .nil
    | cons t ts ih =>
      have ih' := fun cs => ih cs fun u hu => hs u (List.mem_cons_of_mem _ hu)
      cases t with
      | lit t =>
        rw [literalText_glob_cons_lit, String.toList_append]
        constructor
        · intro h
          cases h with
          | lit h => rw [(ih' _).mp h]
        · rintro rfl
          exact .lit ((ih' _).mpr rfl)
      | any => exact absurd (hs _ List.mem_cons_self) Bool.false_ne_true
      | star => exact absurd (hs _ List.mem_cons_self) Bool.false_ne_true
      | cls k => exact absurd (hs _ List.mem_cons_self) Bool.false_ne_true

theorem tokensMatch_star (cs : List Char) : TokensMatch [.star] cs := by
  have h : TokensMatch [.star] (cs ++ []) := .star .nil
  rwa [List.append_nil] at h

/-- A star and then literal text match the components that end with the text. -/
theorem tokensMatch_star_lit_iff {t : String} {cs : List Char} :
    TokensMatch [.star, .lit t] cs ↔ t.toList <:+ cs := by
  constructor
  · intro h
    cases h with
    | star h =>
      cases h with
      | lit h =>
        cases h
        rw [List.append_nil]
        exact List.suffix_append _ _
  · rintro ⟨w, rfl⟩
    have h : TokensMatch [.star, .lit t] (w ++ (t.toList ++ [])) := .star (.lit .nil)
    rwa [List.append_nil] at h

/-- Literal text and then a star match the components that start with the text. -/
theorem tokensMatch_lit_star_iff {t : String} {cs : List Char} :
    TokensMatch [.lit t, .star] cs ↔ t.toList <+: cs := by
  constructor
  · intro h
    cases h with
    | lit h =>
      cases h with
      | star h =>
        cases h
        rw [List.append_nil]
        exact List.prefix_append _ _
  · rintro ⟨w, rfl⟩
    have h : TokensMatch [.lit t, .star] (t.toList ++ (w ++ [])) := .lit (.star .nil)
    rwa [List.append_nil] at h

/-- With case respected, the matcher of one component decides the language of the segment's
tokens, whichever of its shortcuts it takes. -/
theorem Segment.matchComponent_decides (s : Segment) (part : String) :
    Decides (s.matchComponent false part) (TokensMatch s.tokens part.toList) := by
  unfold Segment.matchComponent
  simp only [Bool.false_eq_true, ite_false]
  split
  · -- a literal segment: equality with its text
    rename_i hlit
    refine Decides.of_pure ?_
    rw [beq_iff_eq, Segment.tokensMatch_iff_of_isLiteral hlit, String.toList_inj]
  · split
    · -- a lone star
      rename_i hts
      exact Decides.of_pure (iff_of_true rfl (hts ▸ tokensMatch_star _))
    · -- a star and a suffix
      rename_i t hts
      refine Decides.of_pure ?_
      rw [hts, tokensMatch_star_lit_iff]
      simp [← String.endsWith_toSlice]
    · -- a prefix and a star
      rename_i t hts
      refine Decides.of_pure ?_
      rw [hts, tokensMatch_lit_star_iff]
      simp
    · -- any other glob: the greedy walk
      exact (Atom.matchAll_decides _ part).congr (atomsMatch_ofTokens _ _)

end IgnoreRules
