import Mathlib
import IgnoreRules.RuleSet
import IgnoreRules.Proofs.Ancestry
import IgnoreRules.Proofs.Shortcuts

/-!
# Rule lines are read into well-formed patterns

Reading a rule line gives one of three things (pattern.py:245–310): a syntax error that names the
file, the line number and the line, no pattern (a blank line, a comment, or a body of slashes only),
or a pattern of the shape the matcher relies on. The scanner walks the list of the line's
characters, so no position can fall outside the text, and every way it can fail is a
`SyntaxProblem`.

A well-formed pattern has at least one segment. Every segment text is a non-empty piece of the
body holding no `/`, and the segment is the globstar exactly when its text is `**`; no two
globstars stand next to each other. Every component glob has tokens, with no two stars and no
two literal texts in a row, no empty literal text, and only ranges that run upwards. A pattern is
unanchored only when it has a single segment. The named classes of a bracket expression are
values of `NamedClass`, so a name other than the twelve cannot occur: `NamedClass.ofName?` reads
exactly their names, and the scanner rejects any other.

The body is cut at `/` by `String.splitOn`, which walks byte positions. For a separator of one
character it cuts the list of characters (`String.splitOn_singleton`); the proofs below use that
form, and so does the evaluation of a concrete line, which is slow through byte positions.

## Main statements

- `String.splitOn_singleton`: cutting a text at one character cuts its list of characters.
- `Scan.tokens_wellFormed`: the tokens of a non-empty component are well formed.
- `Scan.segments_wellFormed`: the segments read from pieces without `/` are well formed.
- `Pattern.wellFormed_of_ofLine`: a pattern read from a line is well formed.
- `rules_read_wellFormed`: every line is read into a well-formed pattern, nothing, or an error
  naming it; so every rule set read from a text holds well-formed patterns of its file and error
  diagnostics of its file.
-/

namespace String

/-- Cutting at a one-character separator, with `l` read and the piece `m` open, gives the pieces
read so far and the open piece continued over the rest `r`. -/
theorem splitOnAux_singleton (c : Char) (l m r : List Char) (acc : List String) :
    (ofList (l ++ m ++ r)).splitOnAux (singleton c) ⟨utf8Len l⟩ ⟨utf8Len l + utf8Len m⟩ 0 acc =
      acc.reverse ++ (List.splitOnPPrepend (· == c) r m.reverse).map ofList := by
  induction r generalizing l m acc with
  | nil =>
    have hend : Pos.Raw.atEnd (ofList (l ++ m ++ [])) ⟨utf8Len l + utf8Len m⟩ = true := by
      rw [atEnd_iff, rawEndPos_ofList, Pos.Raw.mk_le_mk, utf8Len_append, utf8Len_append]
      simp
    rw [splitOnAux.eq_1, if_pos hend]
    simpa using extract_of_valid l m []
  | cons d r ih =>
    have hend : Pos.Raw.atEnd (ofList (l ++ m ++ d :: r)) ⟨utf8Len l + utf8Len m⟩ = false := by
      rw [Bool.eq_false_iff, ne_eq, atEnd_iff, rawEndPos_ofList, Pos.Raw.mk_le_mk, utf8Len_append,
        utf8Len_append, utf8Len_cons]
      have := d.utf8Size_pos
      omega
    have hget : Pos.Raw.get (ofList (l ++ m ++ d :: r)) ⟨utf8Len l + utf8Len m⟩ = d := by
      rw [← utf8Len_append]
      exact get_of_valid (l ++ m) (d :: r)
    have hnext : Pos.Raw.next (ofList (l ++ m ++ d :: r)) ⟨utf8Len l + utf8Len m⟩ =
        ⟨utf8Len l + utf8Len m + d.utf8Size⟩ := by
      rw [← utf8Len_append]
      exact next_of_valid (l ++ m) d r
    have hsep : Pos.Raw.get (singleton c) 0 = c := by
      rw [singleton_eq_ofList]
      exact get_of_valid [] [c]
    rw [splitOnAux.eq_1, if_neg (by rw [hend]; decide), hget, hsep, List.splitOnPPrepend_cons_eq_if]
    by_cases hdc : d = c
    · -- the separator closes the piece `m`, and the next piece opens right after it
      subst hdc
      have hsepNext : Pos.Raw.next (singleton d) 0 = ⟨d.utf8Size⟩ := by
        rw [singleton_eq_ofList]
        simpa using next_of_valid [] d []
      have hsepEnd : Pos.Raw.atEnd (singleton d) ⟨d.utf8Size⟩ = true := by
        rw [atEnd_iff, singleton_eq_ofList, rawEndPos_ofList]
        simp
      have hpiece : Pos.Raw.extract (ofList (l ++ m ++ d :: r)) ⟨utf8Len l⟩
          (Pos.Raw.unoffsetBy ⟨utf8Len l + utf8Len m + d.utf8Size⟩ ⟨d.utf8Size⟩) = ofList m := by
        simpa [Pos.Raw.unoffsetBy] using extract_of_valid l m (d :: r)
      have := ih (l ++ m ++ [d]) [] (ofList m :: acc)
      rw [List.append_nil, List.append_assoc (l ++ m), List.singleton_append] at this
      simp only [beq_self_eq_true, if_true, hnext, hsepNext, hsepEnd, hpiece]
      rw [utf8Len_append, utf8Len_append, utf8Len_cons, utf8Len_nil, Nat.zero_add, Nat.add_zero] at this
      rw [this, List.reverse_cons, List.append_assoc, List.singleton_append, List.reverse_reverse,
        List.reverse_nil, List.map_cons, List.splitOnP_eq_splitOnPPrepend]
    · -- any other character joins the open piece
      have := ih l (m ++ [d]) acc
      have hs : l ++ (m ++ [d]) ++ r = l ++ m ++ d :: r := by simp
      rw [hs, utf8Len_append, utf8Len_cons, utf8Len_nil, Nat.zero_add, ← Nat.add_assoc,
        List.reverse_concat] at this
      simp only [beq_iff_eq, hdc, if_false, Pos.Raw.unoffsetBy, Pos.Raw.byteIdx_zero, Nat.sub_zero,
        hnext]
      exact this

/-- Cutting a text at a one-character separator cuts its list of characters. -/
theorem splitOn_singleton (cs : List Char) (c : Char) :
    (ofList cs).splitOn (singleton c) = (cs.splitOn c).map ofList := by
  have hsep : (singleton c == "") = false := by
    rw [beq_eq_false_iff_ne, ne_eq, singleton_eq_ofList, ← ofList_nil, ofList_inj]
    exact List.cons_ne_nil c []
  rw [splitOn, if_neg (by rw [hsep]; decide), List.splitOn_eq_splitOnP,
    List.splitOnP_eq_splitOnPPrepend]
  simpa using splitOnAux_singleton c [] [] cs []

theorem splitOn_slash (cs : List Char) : (ofList cs).splitOn "/" = (cs.splitOn '/').map ofList :=
  splitOn_singleton cs '/'

end String

namespace IgnoreRules

/-! ## Well-formed patterns -/

/-- A token as the scanner emits it: literal text is never empty, and every range of a bracket
expression runs upwards. -/
def Token.WellFormed : Token → Prop
  | .lit text => text ≠ ""
  | .cls c => ∀ r ∈ c.ranges, r.1 ≤ r.2
  | .any | .star => True

/-- No two stars stand next to each other. -/
def StarsJoined (ts : List Token) : Prop :=
  ts.IsChain fun a b => a ≠ .star ∨ b ≠ .star

/-- The tokens of a component glob as the scanner emits them. -/
structure TokensWellFormed (ts : List Token) : Prop where
  ne_nil : ts ≠ []
  starsJoined : StarsJoined ts
  literalsJoined : LiteralsJoined ts
  token : ∀ t ∈ ts, t.WellFormed

/-- A segment as it is read from a piece of a pattern body: its text is a non-empty piece
without `/`, it is the globstar exactly when its text is `**`, and a component glob has
well-formed tokens. -/
structure Segment.WellFormed (s : Segment) : Prop where
  text_ne_empty : s.text ≠ ""
  slash_not_mem : '/' ∉ s.text.toList
  isGlobstar_iff : s.isGlobstar = true ↔ s.text = "**"
  tokens : s.isGlobstar = false → TokensWellFormed s.tokens

/-- No two globstars stand next to each other. -/
def GlobstarsJoined (segs : List Segment) : Prop :=
  segs.IsChain fun a b => a ≠ .globstar ∨ b ≠ .globstar

/-- A pattern as a rule line is read into one. -/
structure Pattern.WellFormed (p : Pattern) : Prop where
  segments_ne_nil : p.segments ≠ []
  segment : ∀ s ∈ p.segments, s.WellFormed
  globstarsJoined : GlobstarsJoined p.segments
  single_of_not_anchored : p.anchored = false → p.segments.length = 1

instance : DecidablePred Token.WellFormed
  | .lit text => inferInstanceAs (Decidable (text ≠ ""))
  | .any => inferInstanceAs (Decidable True)
  | .star => inferInstanceAs (Decidable True)
  | .cls c => inferInstanceAs (Decidable (∀ r ∈ c.ranges, r.1 ≤ r.2))

instance (ts : List Token) : Decidable (StarsJoined ts) :=
  inferInstanceAs (Decidable (ts.IsChain fun a b => a ≠ .star ∨ b ≠ .star))

instance (ts : List Token) : Decidable (LiteralsJoined ts) :=
  inferInstanceAs (Decidable (ts.IsChain fun a b => a.isLit = false ∨ b.isLit = false))

instance (ts : List Token) : Decidable (TokensWellFormed ts) :=
  decidable_of_iff (ts ≠ [] ∧ StarsJoined ts ∧ LiteralsJoined ts ∧ ∀ t ∈ ts, t.WellFormed)
    ⟨fun h => ⟨h.1, h.2.1, h.2.2.1, h.2.2.2⟩,
      fun h => ⟨h.ne_nil, h.starsJoined, h.literalsJoined, h.token⟩⟩

instance (s : Segment) : Decidable s.WellFormed :=
  decidable_of_iff (s.text ≠ "" ∧ '/' ∉ s.text.toList ∧ (s.isGlobstar = true ↔ s.text = "**") ∧
      (s.isGlobstar = false → TokensWellFormed s.tokens))
    ⟨fun h => ⟨h.1, h.2.1, h.2.2.1, h.2.2.2⟩,
      fun h => ⟨h.text_ne_empty, h.slash_not_mem, h.isGlobstar_iff, h.tokens⟩⟩

instance (segs : List Segment) : Decidable (GlobstarsJoined segs) :=
  inferInstanceAs (Decidable (segs.IsChain fun a b => a ≠ .globstar ∨ b ≠ .globstar))

instance (p : Pattern) : Decidable p.WellFormed :=
  decidable_of_iff (p.segments ≠ [] ∧ (∀ s ∈ p.segments, s.WellFormed) ∧
      GlobstarsJoined p.segments ∧ (p.anchored = false → p.segments.length = 1))
    ⟨fun h => ⟨h.1, h.2.1, h.2.2.1, h.2.2.2⟩,
      fun h => ⟨h.segments_ne_nil, h.segment, h.globstarsJoined, h.single_of_not_anchored⟩⟩

/-- Two globstars in a row are not a pattern the reader builds. -/
example : ¬ Pattern.WellFormed
    ⟨"a/**/**", [.glob "a" [.lit "a"], .globstar, .globstar], true, false, false, none, 1⟩ := by
  decide

/-- The scanner accepts exactly the twelve names of the classes. -/
theorem NamedClass.ofName?_eq_some_iff {s : String} {k : NamedClass} :
    NamedClass.ofName? s = some k ↔ k.name = s := by
  unfold NamedClass.ofName?
  constructor
  · intro h
    simpa using List.find?_some h
  · rintro rfl
    cases k <;> decide

/-- A chain stays one when an element related to its last is appended. -/
theorem isChain_append_singleton {α : Type} {R : α → α → Prop} {l : List α} {t : α}
    (h : l.IsChain R) (ht : ∀ x ∈ l.getLast?, R x t) : (l ++ [t]).IsChain R :=
  h.append (List.isChain_singleton t) fun x hx y hy => by
    rw [List.head?_cons, Option.mem_some_iff] at hy
    exact hy ▸ ht x hx

theorem Segment.wellFormed_globstar : Segment.globstar.WellFormed where
  text_ne_empty := by decide
  slash_not_mem := by decide
  isGlobstar_iff := by simp [Segment.isGlobstar, Segment.text]
  tokens h := by cases h

/-! ## Scanning a component -/

namespace Scan

/-- The ranges read so far in an open bracket expression run upwards. -/
def Mode.RangesUpward : Mode → Prop
  | .text => True
  | .bracket _ _ ranges _ => ∀ r ∈ ranges, r.1 ≤ r.2

/-- What scanning keeps of the tokens emitted so far and of an open bracket expression: no two
stars in a row, every token well formed, and every range read so far running upwards. -/
structure Sound (mode : Mode) (tokens : List Token) : Prop where
  starsJoined : StarsJoined tokens
  token : ∀ t ∈ tokens, t.WellFormed
  ranges : mode.RangesUpward

variable {mode : Mode} {tokens : List Token}

theorem Sound.nil : Sound .text [] :=
  ⟨List.IsChain.nil, by simp, trivial⟩

/-- Emitting the pending characters keeps what scanning keeps: their literal text is not empty
and not a star. -/
theorem Sound.flush (h : Sound mode tokens) (pending : List Char) :
    StarsJoined (Scan.flush pending tokens) ∧ ∀ t ∈ Scan.flush pending tokens, t.WellFormed := by
  unfold Scan.flush
  split
  · exact ⟨h.starsJoined, h.token⟩
  · rename_i hpending
    refine ⟨isChain_append_singleton h.starsJoined fun _ _ => Or.inr (by simp), ?_⟩
    rw [List.forall_mem_append, List.forall_mem_singleton]
    refine ⟨h.token, ?_⟩
    rw [Token.WellFormed, ne_eq, String.ofList_eq_empty_iff, List.reverse_eq_nil_iff]
    simpa using hpending

/-- Emitting the pending characters and then a well-formed token other than a star. -/
theorem Sound.flush_append (h : Sound mode tokens) (pending : List Char) {t : Token}
    (hstar : t ≠ .star) (ht : t.WellFormed) : Sound .text (Scan.flush pending tokens ++ [t]) where
  starsJoined := isChain_append_singleton (h.flush pending).1 fun _ _ => Or.inr hstar
  token := by
    rw [List.forall_mem_append, List.forall_mem_singleton]
    exact ⟨(h.flush pending).2, ht⟩
  ranges := trivial

/-- A star joins a star emitted last, or is emitted after the pending characters. -/
theorem Sound.star (h : Sound .text tokens) (pending : List Char) :
    Sound .text (if (Scan.flush pending tokens).getLast? == some .star then Scan.flush pending tokens
      else Scan.flush pending tokens ++ [.star]) := by
  split
  · exact ⟨(h.flush pending).1, (h.flush pending).2, trivial⟩
  · rename_i hlast
    refine ⟨isChain_append_singleton (h.flush pending).1 fun x hx => Or.inl ?_, ?_, trivial⟩
    · rintro rfl
      exact hlast (by simpa using hx)
    · rw [List.forall_mem_append, List.forall_mem_singleton]
      exact ⟨(h.flush pending).2, trivial⟩

theorem Sound.openBracket (h : Sound .text tokens) (negated : Bool) :
    Sound (.bracket negated true [] []) tokens :=
  ⟨h.starsJoined, h.token, by simp [Mode.RangesUpward]⟩

theorem Sound.addClass {negated first : Bool} {ranges : List (Char × Char)}
    {classes : List NamedClass} (h : Sound (.bracket negated first ranges classes) tokens)
    (k : NamedClass) : Sound (.bracket negated false ranges (classes ++ [k])) tokens :=
  ⟨h.starsJoined, h.token, h.ranges⟩

theorem Sound.addRange {negated first : Bool} {ranges : List (Char × Char)}
    {classes : List NamedClass} (h : Sound (.bracket negated first ranges classes) tokens)
    {range : Char × Char} (hrange : range.1 ≤ range.2) :
    Sound (.bracket negated false (ranges ++ [range]) classes) tokens := by
  refine ⟨h.starsJoined, h.token, ?_⟩
  rw [Mode.RangesUpward, List.forall_mem_append, List.forall_mem_singleton]
  exact ⟨h.ranges, hrange⟩

/-- A closing `]` emits the pending characters and then the bracket expression. -/
theorem Sound.closeBracket {negated first : Bool} {ranges : List (Char × Char)}
    {classes : List NamedClass} (h : Sound (.bracket negated first ranges classes) tokens)
    (pending : List Char) :
    Sound .text (Scan.flush pending tokens ++ [.cls ⟨ranges, classes, negated⟩]) :=
  h.flush_append pending (by simp) h.ranges

/-- A bracket item is a range that runs upwards: a descending one is rejected. -/
theorem readItem_le {c : Char} {rest : List Char} {range : Char × Char}
    {after : {r : List Char // r.length ≤ rest.length}}
    (h : readItem c rest = .ok (range, after)) : range.1 ≤ range.2 := by
  unfold readItem at h
  split at h
  · split at h
    · -- `-]` ends the expression: the item is the single character
      cases h
      exact le_refl c
    · split at h
      · -- an escaped upper end
        split at h
        · cases h
        · split at h
          · cases h
          · rename_i hlt
            cases h
            exact Char.not_lt.mp hlt
      · split at h
        · cases h
        · rename_i hlt
          cases h
          exact Char.not_lt.mp hlt
  · cases h
    exact le_refl c

/-- Scanning from a state that keeps `Sound` ends with no two stars in a row and only
well-formed tokens. -/
theorem run_sound {ts : List Token} (mode : Mode) (pending : List Char) (tokens : List Token)
    (cs : List Char) :
    Sound mode tokens → run mode pending tokens cs = .ok ts →
      StarsJoined ts ∧ ∀ t ∈ ts, t.WellFormed := by
  fun_induction run mode pending tokens cs with
  | case1 pending tokens =>
    intro h hrun
    rw [← Except.ok.inj hrun]
    exact h.flush pending
  | case2 => intro _ hrun; cases hrun
  | case3 => intro _ hrun; cases hrun
  | case4 _ _ _ _ _ _ ih => exact ih
  | case5 pending _ _ _ _ _ _ ih => exact fun h => ih (h.star pending)
  | case6 pending _ _ _ _ _ _ ih => exact fun h => ih (h.flush_append pending (by simp) trivial)
  | case7 _ _ _ _ _ _ _ _ _ _ ih => exact fun h => ih (h.openBracket _)
  | case8 _ _ _ _ _ _ _ _ _ _ ih => exact fun h => ih (h.openBracket _)
  | case9 _ _ _ _ _ _ _ ih => exact fun h => ih (h.openBracket _)
  | case10 _ _ _ _ _ _ _ _ ih => exact ih
  | case11 pending _ _ _ _ _ _ _ _ ih => exact fun h => ih (h.closeBracket pending)
  | case12 _ _ _ _ _ _ _ _ _ _ _ _ _ _ ih => exact fun h => ih (h.addClass _)
  | case13 => intro _ hrun; cases hrun
  | case14 => intro _ hrun; cases hrun
  | case15 _ _ _ _ _ _ _ _ _ _ _ _ ih =>
    -- an escaped item: a range read by `readItem` runs upwards
    intro h hrun
    obtain ⟨⟨range, after⟩, hitem, hrun⟩ := exists_of_bind_eq_ok hrun
    exact ih range after (h.addRange (readItem_le hitem)) hrun
  | case16 _ _ _ _ _ _ _ _ _ _ _ ih =>
    intro h hrun
    obtain ⟨⟨range, after⟩, hitem, hrun⟩ := exists_of_bind_eq_ok hrun
    exact ih range after (h.addRange (readItem_le hitem)) hrun

theorem flush_eq_nil {pending : List Char} {tokens : List Token} :
    Scan.flush pending tokens = [] ↔ pending = [] ∧ tokens = [] := by
  unfold Scan.flush
  split
  · rename_i hpending
    simp [List.isEmpty_iff.mp hpending]
  · rename_i hpending
    simp only [List.append_eq_nil_iff, List.cons_ne_nil, and_false, false_iff, not_and]
    exact fun h => absurd (List.isEmpty_iff.mpr h) hpending

/-- A scan ends with no tokens only when it starts in plain text with nothing pending, nothing
emitted and nothing to read: every character read is emitted, waits to be, or opens a bracket
expression that can only close with a token. -/
theorem run_eq_nil (mode : Mode) (pending : List Char) (tokens : List Token) (cs : List Char) :
    run mode pending tokens cs = .ok [] → mode = .text ∧ pending = [] ∧ tokens = [] ∧ cs = [] := by
  fun_induction run mode pending tokens cs with
  | case1 pending tokens =>
    intro hrun
    have h := flush_eq_nil.mp (Except.ok.inj hrun)
    exact ⟨rfl, h.1, h.2, rfl⟩
  | case2 => intro hrun; cases hrun
  | case3 => intro hrun; cases hrun
  | case4 _ _ _ _ _ _ ih => intro hrun; cases (ih hrun).2.1
  | case5 pending tokens _ _ _ _ _ ih =>
    intro hrun
    have h := (ih hrun).2.2.1
    split at h
    · rename_i hstar
      rw [h] at hstar
      cases hstar
    · simp at h
  | case6 _ _ _ _ _ _ _ ih => intro hrun; simpa using (ih hrun).2.2.1
  | case7 _ _ _ _ _ _ _ _ _ _ ih => intro hrun; cases (ih hrun).1
  | case8 _ _ _ _ _ _ _ _ _ _ ih => intro hrun; cases (ih hrun).1
  | case9 _ _ _ _ _ _ _ ih => intro hrun; cases (ih hrun).1
  | case10 _ _ _ _ _ _ _ _ ih => intro hrun; cases (ih hrun).2.1
  | case11 _ _ _ _ _ _ _ _ _ ih => intro hrun; simpa using (ih hrun).2.2.1
  | case12 _ _ _ _ _ _ _ _ _ _ _ _ _ _ ih => intro hrun; cases (ih hrun).1
  | case13 => intro hrun; cases hrun
  | case14 => intro hrun; cases hrun
  | case15 _ _ _ _ _ _ _ _ _ _ _ _ ih =>
    intro hrun
    obtain ⟨⟨range, after⟩, -, hrun⟩ := exists_of_bind_eq_ok hrun
    cases (ih range after hrun).1
  | case16 _ _ _ _ _ _ _ _ _ _ _ ih =>
    intro hrun
    obtain ⟨⟨range, after⟩, -, hrun⟩ := exists_of_bind_eq_ok hrun
    cases (ih range after hrun).1

/-- The tokens of a non-empty component are well formed. -/
theorem tokens_wellFormed {piece : String} {ts : List Token} (h : Scan.tokens piece = .ok ts)
    (hpiece : piece ≠ "") : TokensWellFormed ts where
  ne_nil := by
    rintro rfl
    exact hpiece (String.toList_eq_nil_iff.mp (run_eq_nil .text [] [] piece.toList h).2.2.2)
  starsJoined := (run_sound .text [] [] piece.toList Sound.nil h).1
  literalsJoined := tokens_literalsJoined h
  token := (run_sound .text [] [] piece.toList Sound.nil h).2

/-! ## Reading the pieces of a body -/

/-- A fold that keeps an invariant at every step over a member of the list keeps it to the
end. -/
theorem foldlM_invariant_mem {α β ε : Type} (P : α → Prop) {f : α → β → Except ε α}
    {l : List β} (hf : ∀ a b a', b ∈ l → P a → f a b = .ok a' → P a') {a a' : α} (ha : P a)
    (h : l.foldlM f a = .ok a') : P a' := by
  rw [← List.unattach_attach (l := l),
    ← List.foldlM_subtype (f := fun a b => f a b.1) (fun _ _ _ => rfl)] at h
  exact foldlM_invariant P (fun a b a' => hf a b.1 a' b.2) ha h

/-- The segments read from pieces without `/` are well formed, with no two globstars in a
row. -/
theorem segments_wellFormed {pieces : List String} {segs : List Segment}
    (hpieces : ∀ piece ∈ pieces, '/' ∉ piece.toList) (h : segments pieces = .ok segs) :
    (∀ s ∈ segs, s.WellFormed) ∧ GlobstarsJoined segs := by
  unfold segments at h
  refine foldlM_invariant_mem
    (fun acc : List Segment => (∀ s ∈ acc, s.WellFormed) ∧ GlobstarsJoined acc) ?_
    ⟨by simp, List.IsChain.nil⟩ h
  rintro acc piece acc' hmem ⟨hacc, hjoined⟩ hstep
  split at hstep
  · -- an empty piece adds nothing
    cases hstep
    exact ⟨hacc, hjoined⟩
  · rename_i hempty
    split at hstep
    · -- a globstar is added unless one stands last
      cases hstep
      split
      · exact ⟨hacc, hjoined⟩
      · rename_i hlast
        refine ⟨?_, isChain_append_singleton hjoined fun x hx => Or.inl ?_⟩
        · rw [List.forall_mem_append, List.forall_mem_singleton]
          exact ⟨hacc, Segment.wellFormed_globstar⟩
        · rintro rfl
          exact hlast (by simpa using hx)
    · rename_i hglob
      obtain ⟨ts, hts, hstep⟩ := exists_of_bind_eq_ok hstep
      cases hstep
      have hne : piece ≠ "" := fun h => hempty (String.isEmpty_iff.mpr h)
      refine ⟨?_, isChain_append_singleton hjoined fun _ _ => Or.inr (by simp)⟩
      rw [List.forall_mem_append, List.forall_mem_singleton]
      refine ⟨hacc, hne, hpieces piece hmem, ?_, fun _ => tokens_wellFormed hts hne⟩
      simpa [Segment.isGlobstar, Segment.text] using hglob

/-- A single piece gives at most one segment. -/
theorem segments_singleton_length {piece : String} {segs : List Segment}
    (h : segments [piece] = .ok segs) : segs.length ≤ 1 := by
  unfold segments at h
  rw [List.foldlM_cons] at h
  obtain ⟨acc, hstep, hrest⟩ := exists_of_bind_eq_ok h
  rw [List.foldlM_nil] at hrest
  cases hrest
  split at hstep
  · cases hstep
    simp
  · split at hstep
    · cases hstep
      split <;> simp
    · obtain ⟨ts, -, hstep⟩ := exists_of_bind_eq_ok hstep
      cases hstep
      simp

end Scan

/-! ## Reading a line -/

/-- A line that gives a pattern: its segments are read from the body cut at `/`, the body holds
no `/` when the pattern is unanchored, and the pattern names its line. -/
theorem Pattern.ofLine_eq_some {line : String} {sourceFile : Option String} {lineNumber : Int}
    {p : Pattern} (h : Pattern.ofLine line sourceFile lineNumber = .ok (some p)) :
    ∃ body : List Char, Scan.segments ((String.ofList body).splitOn "/") = .ok p.segments ∧
      (p.anchored = false → '/' ∉ body) ∧ p.raw = String.ofList (rawLine line lineNumber) ∧
      p.sourceFile = sourceFile ∧ p.lineNumber = lineNumber := by
  unfold Pattern.ofLine at h
  simp only at h
  split at h
  · cases h
  · split at h
    · cases h
    · split at h
      · cases h
      · cases h
      · rename_i hsegs
        cases h
        refine ⟨_, hsegs, fun hanchored hmem => ?_, rfl, rfl, rfl⟩
        rw [Bool.or_eq_false_iff] at hanchored
        exact absurd (List.contains_iff_mem.mpr hmem) (by rw [hanchored.2]; decide)

/-- A line that does not parse gives an error naming its file, its number and the line. -/
theorem Pattern.ofLine_eq_error {line : String} {sourceFile : Option String} {lineNumber : Int}
    {e : SyntaxError} (h : Pattern.ofLine line sourceFile lineNumber = .error e) :
    e.sourceFile = sourceFile ∧ e.lineNumber = lineNumber ∧
      e.raw = String.ofList (rawLine line lineNumber) := by
  unfold Pattern.ofLine at h
  simp only at h
  split at h
  · cases h
  · split at h
    · cases h
    · split at h
      · cases h
        exact ⟨rfl, rfl, rfl⟩
      · cases h
      · cases h

/-- A pattern read from a line is well formed. -/
theorem Pattern.wellFormed_of_ofLine {line : String} {sourceFile : Option String}
    {lineNumber : Int} {p : Pattern}
    (h : Pattern.ofLine line sourceFile lineNumber = .ok (some p)) : p.WellFormed := by
  obtain ⟨body, hsegs, hanchored, -⟩ := Pattern.ofLine_eq_some h
  rw [String.splitOn_slash] at hsegs
  -- a piece of the body lies between two slashes, so holds none
  have hpieces : ∀ piece ∈ (body.splitOn '/').map String.ofList, '/' ∉ piece.toList := by
    intro piece hpiece
    obtain ⟨l, hl, rfl⟩ := List.mem_map.mp hpiece
    rw [String.toList_ofList]
    exact not_mem_of_mem_splitOn hl
  obtain ⟨hsegments, hjoined⟩ := Scan.segments_wellFormed hpieces hsegs
  have hne := Pattern.segments_ne_nil_of_ofLine h
  refine ⟨hne, hsegments, hjoined, fun hunanchored => ?_⟩
  -- an unanchored body holds no `/`: it is one piece, which gives one segment
  rw [List.splitOn_eq_singleton (hanchored hunanchored), List.map_singleton] at hsegs
  have hle := Scan.segments_singleton_length hsegs
  have hpos := List.length_pos_of_ne_nil hne
  omega

/-! ## Reading a file -/

/-- Reading the lines of a file keeps well-formed patterns of the file and errors of the
file. -/
theorem Pattern.ofLines_wellFormed (lines : List String) (sourceFile : Option String) :
    (∀ p ∈ (Pattern.ofLines lines sourceFile).1, p.WellFormed ∧ p.sourceFile = sourceFile) ∧
      ∀ e ∈ (Pattern.ofLines lines sourceFile).2, e.sourceFile = sourceFile := by
  unfold Pattern.ofLines
  refine List.foldlRecOn (motive := fun acc : List Pattern × List SyntaxError =>
      (∀ p ∈ acc.1, p.WellFormed ∧ p.sourceFile = sourceFile) ∧
        ∀ e ∈ acc.2, e.sourceFile = sourceFile) _ _ ⟨by simp, by simp⟩ ?_
  rintro ⟨patterns, errors⟩ ⟨hpatterns, herrors⟩ ⟨line, n⟩ -
  dsimp only
  split
  · -- a pattern joins the patterns
    rename_i p hp
    obtain ⟨-, -, -, -, hsource, -⟩ := Pattern.ofLine_eq_some hp
    refine ⟨?_, herrors⟩
    rw [List.forall_mem_append, List.forall_mem_singleton]
    exact ⟨hpatterns, Pattern.wellFormed_of_ofLine hp, hsource⟩
  · exact ⟨hpatterns, herrors⟩
  · -- an error joins the errors
    rename_i e he
    refine ⟨hpatterns, ?_⟩
    rw [List.forall_mem_append, List.forall_mem_singleton]
    exact ⟨herrors, (Pattern.ofLine_eq_error he).1⟩

theorem mem_of_mem_takeUpTo {α : Type} {n : Int} {xs : List α} {x : α}
    (h : x ∈ takeUpTo n xs) : x ∈ xs := by
  unfold takeUpTo at h
  split at h <;> exact List.mem_of_mem_take h

/-- A rule set read from a text holds well-formed patterns of its file, and its diagnostics are
errors of its file. -/
theorem RuleSet.ofText_wellFormed (version : Nat) (id : String) (baseDir : PosixPath)
    (contents : String) (origin : Origin) (maxPatterns : Int) :
    let rs := RuleSet.ofText version id baseDir contents origin maxPatterns
    (∀ p ∈ rs.patterns, p.WellFormed ∧ p.sourceFile = some id) ∧
      ∀ d ∈ rs.errors, d.file = id ∧ d.severity = .error := by
  obtain ⟨hpatterns, herrors⟩ : (∀ p ∈ (Pattern.ofText contents (some id)).1,
      p.WellFormed ∧ p.sourceFile = some id) ∧
      ∀ e ∈ (Pattern.ofText contents (some id)).2, e.sourceFile = some id :=
    Pattern.ofLines_wellFormed (Text.splitLines contents) (some id)
  refine ⟨fun p hp => hpatterns p ?_, fun d hd => ?_⟩
  · -- beyond the limit, the patterns kept are the first ones read
    simp only [RuleSet.ofText] at hp
    split at hp
    · exact mem_of_mem_takeUpTo hp
    · exact hp
  · have hsyntax : ∀ d ∈ (Pattern.ofText contents (some id)).2.map Diagnostic.ofSyntaxError,
        d.file = id ∧ d.severity = .error := by
      intro d hd
      obtain ⟨e, he, rfl⟩ := List.mem_map.mp hd
      simp [Diagnostic.ofSyntaxError, herrors e he]
    simp only [RuleSet.ofText] at hd
    split at hd
    · -- the diagnostic for too many patterns names the file too
      rcases List.mem_append.mp hd with hd | hd
      · exact hsyntax d hd
      · rw [List.mem_singleton.mp hd]
        exact ⟨rfl, rfl⟩
    · exact hsyntax d hd

/-- Every rule line is read into a well-formed pattern, into nothing, or into a syntax error
that names the file, the line number and the line; so every rule set read from a text holds
only well-formed patterns of its file, and only error diagnostics of its file. -/
theorem rules_read_wellFormed :
    (∀ (line : String) (sourceFile : Option String) (lineNumber : Int) (p : Pattern),
        Pattern.ofLine line sourceFile lineNumber = .ok (some p) → p.WellFormed) ∧
      (∀ (line : String) (sourceFile : Option String) (lineNumber : Int) (e : SyntaxError),
        Pattern.ofLine line sourceFile lineNumber = .error e →
          e.sourceFile = sourceFile ∧ e.lineNumber = lineNumber ∧
            e.raw = String.ofList (rawLine line lineNumber)) ∧
      ∀ (version : Nat) (id : String) (baseDir : PosixPath) (contents : String) (origin : Origin)
        (maxPatterns : Int),
        let rs := RuleSet.ofText version id baseDir contents origin maxPatterns
        (∀ p ∈ rs.patterns, p.WellFormed ∧ p.sourceFile = some id) ∧
          ∀ d ∈ rs.errors, d.file = id ∧ d.severity = .error :=
  ⟨fun _ _ _ _ => Pattern.wellFormed_of_ofLine, fun _ _ _ _ => Pattern.ofLine_eq_error,
    RuleSet.ofText_wellFormed⟩

/-- `!/a/**/**/*.o` is read into three segments, the repeated globstar kept once, and the
descending range of `[z-a]` is rejected with an error naming its line; the rule set of both lines
keeps the pattern and reports the error of its file. -/
theorem rules_read_wellFormed_globstars :
    let p : Pattern :=
      { raw := "!/a/**/**/*.o",
        segments := [.glob "a" [.lit "a"], .globstar, .glob "*.o" [.star, .lit ".o"]],
        anchored := true, directoryOnly := false, negated := true, sourceFile := some "r",
        lineNumber := 1 }
    let e : SyntaxError := ⟨.invalidRange 'z' 'a', some "r", 2, "[z-a]"⟩
    let rs := RuleSet.ofText 1 "r" (PosixPath.normalize "/repo") "!/a/**/**/*.o\n[z-a]\n"
      Origin.found 100
    Pattern.ofLine "!/a/**/**/*.o" (some "r") 1 = .ok (some p) ∧ p.WellFormed ∧
      Pattern.ofLine "[z-a]" (some "r") 2 = .error e ∧ e.raw = "[z-a]" ∧
      rs.patterns = [p] ∧ p.sourceFile = some "r" ∧
      rs.errors = [Diagnostic.ofSyntaxError e] ∧ (Diagnostic.ofSyntaxError e).file = "r" := by
  intro p e rs
  have hp : Pattern.ofLine "!/a/**/**/*.o" (some "r") 1 = .ok (some p) := by
    rw [Pattern.ofLine]
    simp only [String.splitOn_slash]
    cbv
  have he : Pattern.ofLine "[z-a]" (some "r") 2 = .error e := by
    rw [Pattern.ofLine]
    simp only [String.splitOn_slash]
    cbv
  have hlines : Text.splitLines "!/a/**/**/*.o\n[z-a]\n" = ["!/a/**/**/*.o", "[z-a]"] := by
    decide
  have htext : Pattern.ofText "!/a/**/**/*.o\n[z-a]\n" (some "r") = ([p], [e]) := by
    rw [Pattern.ofText, hlines]
    simp only [Pattern.ofLines, List.length_cons, List.length_nil, List.range'_succ, List.range'_zero,
      List.zip_cons_cons, List.zip_nil_right, List.foldl_cons, List.foldl_nil, Nat.reduceAdd,
      Nat.cast_one, Nat.cast_ofNat, hp, he]
    rfl
  have hrs : rs.patterns = [p] ∧ rs.errors = [Diagnostic.ofSyntaxError e] := by
    simp only [rs, RuleSet.ofText, htext]
    decide
  obtain ⟨hwf, hline, hrule⟩ := rules_read_wellFormed
  have hmember := (hrule 1 "r" (PosixPath.normalize "/repo") "!/a/**/**/*.o\n[z-a]\n" Origin.found
    100).1 p (by rw [hrs.1]; exact List.mem_singleton_self p)
  have hdiag := (hrule 1 "r" (PosixPath.normalize "/repo") "!/a/**/**/*.o\n[z-a]\n" Origin.found
    100).2 (Diagnostic.ofSyntaxError e) (by rw [hrs.2]; exact List.mem_singleton_self _)
  exact ⟨hp, hwf _ _ _ p hp, he, (hline _ _ _ e he).2.2, hrs.1, hmember.2, hrs.2, hdiag.1⟩

end IgnoreRules
