import IgnoreRules.Pattern.Basic
import IgnoreRules.Text.Alphabetic
import IgnoreRules.Text.Printable
import IgnoreRules.Text.Cased
import IgnoreRules.Text.CaseMap

/-!
# Matching one path component

A component glob is flattened into atoms (matcher.py:21–117): one atom per literal character, `?`,
`*`, and one atom per bracket class. A component matches when it is in the language of its atoms.
The walk that decides this is the single-star greedy search: it advances text and atoms together,
and on a mismatch restarts just after the most recent star with that star taking one more character.

With case ignored, the component and the literal text of the glob are lowercased first, and a
bracket class accepts a character when it accepts the character or its uppercase form. The
uppercase form of one character may be several characters long (`ß` gives `SS`); ranges then
compare it as a text, and the control-character class, which needs a single character, fails.

- `CharClass.accepts`: one character against a bracket class.
- `Atom.matchAll`: the greedy walk of a component against atoms.
- `Segment.matchComponent`: a component against a segment, with the shortcuts for a literal
  segment, a lone star, a star and a suffix, and a prefix and a star.
-/

namespace IgnoreRules

/-- Why a component could not be compared: the control-character class was asked about a text
of the given length instead of one character. -/
inductive MatchError where
  | notOneCharacter (length : Nat)
  deriving DecidableEq, Repr

/-- The message of a match error. -/
def MatchError.message : MatchError → String
  | .notOneCharacter n => "ord() expected a character, but string of length " ++ toString n ++ " found"

/-- Whether `s` occurs as a contiguous piece of `t`. -/
def textWithin (s t : String) : Bool :=
  (List.range (t.length + 1)).any fun i => s.toList.isPrefixOf (t.toList.drop i)

/-- The ASCII punctuation characters. -/
def punctuation : String := "!\"#$%&'()*+,-./:;<=>?@[\\]^_" ++ "\x60" ++ "\x7b|\x7d~"

/-- Whether a named class holds of a candidate text (one character, or the uppercase form of
one). The blank, digit, punctuation and hexadecimal classes ask whether the candidate occurs
within their list of characters; the others are the Unicode predicates of texts. -/
def NamedClass.holds (k : NamedClass) (s : String) : Except MatchError Bool :=
  match k with
  | .alnum => pure (Text.isAlnum s)
  | .alpha => pure (Text.isAlpha s)
  | .blank => pure (textWithin s " \t")
  | .cntrl =>
    match s.toList with
    | [c] => pure (c.toNat < 32 || c.toNat == 127)
    | cs => throw (.notOneCharacter cs.length)
  | .digit => pure (textWithin s "0123456789")
  | .graph => pure (Text.isPrintable s && !Text.isSpace s)
  | .lower => pure (Text.isLower s)
  | .print => pure (Text.isPrintable s)
  | .punct => pure (textWithin s punctuation)
  | .space => pure (Text.isSpace s)
  | .upper => pure (Text.isUpper s)
  | .xdigit => pure (textWithin s "0123456789abcdefABCDEF")

/-- Whether some named class of the list holds, trying them in order and stopping at the first
that holds. -/
def anyClassHolds (s : String) : List NamedClass → Except MatchError Bool
  | [] => pure false
  | k :: ks => do
    if ← k.holds s then pure true else anyClassHolds s ks

/-- Whether a candidate text lies in one of the ranges (compared as texts) or has one of the
named classes. -/
def CharClass.hitBy (cls : CharClass) (s : String) : Except MatchError Bool :=
  if cls.ranges.any (fun (lo, hi) => decide (lo.toString ≤ s) && decide (s ≤ hi.toString)) then
    pure true
  else anyClassHolds s cls.classes

/-- Whether some candidate hits the class, trying them in order. -/
def CharClass.hitByAny (cls : CharClass) : List String → Except MatchError Bool
  | [] => pure false
  | s :: rest => do
    if ← cls.hitBy s then pure true else cls.hitByAny rest

/-- Whether a bracket class accepts the character `c`; with case ignored, `c` or its uppercase
form may hit, and the complement flag flips the answer. -/
def CharClass.accepts (cls : CharClass) (c : Char) (ignoreCase : Bool) :
    Except MatchError Bool := do
  let candidates := if ignoreCase then [c.toString, Text.upper c.toString] else [c.toString]
  let hit ← cls.hitByAny candidates
  pure (hit != cls.negated)

/-- One position of a flattened component glob. -/
inductive Atom where
  | char (c : Char)
  | any
  | star
  | cls (c : CharClass)
  deriving DecidableEq, Repr

/-- Whether an atom that is not a star accepts the character `c`. -/
def Atom.accepts (a : Atom) (c : Char) (ignoreCase : Bool) : Except MatchError Bool :=
  match a with
  | .char d => pure (d == c)
  | .any => pure true
  | .star => pure true
  | .cls k => k.accepts c ignoreCase

/-- The atoms of a component glob; with case ignored, literal text is lowercased first. -/
def Atom.ofTokens (tokens : List Token) (ignoreCase : Bool) : List Atom :=
  tokens.flatMap fun
    | .lit t => ((if ignoreCase then Text.lower t else t).toList.map Atom.char)
    | .any => [.any]
    | .star => [.star]
    | .cls k => [.cls k]

/-- Whether every atom from position `p` on is a star. -/
def Atom.restAreStars (atoms : Array Atom) (p : Nat) : Bool :=
  (atoms.toList.drop p).all (· == .star)

/-- The greedy walk. The text position is `start + k`: `start` is where the most recent star
(at `lastStar`, if any) began to match, and `k` counts the characters matched since. Atom `p` is
next. At the end of the text the rest of the atoms must all be stars. -/
def Atom.walk (atoms : Array Atom) (text : Array Char) (ignoreCase : Bool)
    (p : Nat) (lastStar : Option Nat) (start k : Nat) : Except MatchError Bool :=
  if h : start + k < text.size then
    match hp : atoms[p]? with
    | some .star => Atom.walk atoms text ignoreCase (p + 1) (some p) (start + k) 0
    | some a => do
      if ← a.accepts text[start + k] ignoreCase then
        Atom.walk atoms text ignoreCase (p + 1) lastStar start (k + 1)
      else
        match lastStar with
        | some q => Atom.walk atoms text ignoreCase (q + 1) lastStar (start + 1) 0
        | none => pure false
    | none =>
      match lastStar with
      | some q => Atom.walk atoms text ignoreCase (q + 1) lastStar (start + 1) 0
      | none => pure false
  else pure (Atom.restAreStars atoms p)
termination_by (text.size + 1 - start, text.size + 1 - (start + k), atoms.size + 1 - p)
decreasing_by
  all_goals simp_wf
  all_goals first
    | (apply Prod.Lex.left; omega)
    | (have : p < atoms.size := by
         rcases Nat.lt_or_ge p atoms.size with hlt | hge
         · exact hlt
         · rw [Array.getElem?_eq_none hge] at hp; cases hp
       rcases Nat.eq_zero_or_pos k with hk | hk
       · subst hk
         apply Prod.Lex.right
         apply Prod.Lex.right
         omega
       · apply Prod.Lex.left; omega)
    | (apply Prod.Lex.right; apply Prod.Lex.left; omega)

/-- Whether a component is in the language of the atoms, by the greedy walk. -/
def Atom.matchAll (atoms : List Atom) (text : String) (ignoreCase : Bool) :
    Except MatchError Bool :=
  Atom.walk atoms.toArray text.toList.toArray ignoreCase 0 none 0 0

/-- The literal text of a segment: its literal tokens joined. -/
def Segment.literalText (s : Segment) : String :=
  String.join (s.tokens.filterMap fun | .lit t => some t | _ => none)

/-- Whether a component (already lowercased when case is ignored) matches a segment that is not
a globstar. Literal segments compare by equality, a lone star accepts every component, a star
before a literal asks for a suffix and a literal before a star for a prefix. -/
def Segment.matchComponent (s : Segment) (ignoreCase : Bool) (part : String) :
    Except MatchError Bool :=
  let fold := fun t => if ignoreCase then Text.lower t else t
  if s.isLiteral then pure (part == fold s.literalText)
  else
    match s.tokens with
    | [.star] => pure true
    | [.star, .lit t] => pure (part.endsWith (fold t))
    | [.lit t, .star] => pure (part.startsWith (fold t))
    | ts => Atom.matchAll (Atom.ofTokens ts ignoreCase) part ignoreCase

end IgnoreRules
