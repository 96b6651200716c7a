import IgnoreRules.RuleSet
import IgnoreRules.Text.Printable

/-!
# Inspections

Entries that parse but are probably not what the author meant get warnings (inspections.py:19–161):

- a repeated entry (compared with surrounding white space removed);
- a relative entry, containing `./` once escapes are removed;
- a backslash before a letter or digit, as in a path written with the wrong separator;
- an entry that ignores nearly everything (`*`, `**`, `**/*`, `/*`, `/**`);
- a negation below a directory that an earlier entry already excludes, which cannot take
  effect because the contents of an excluded directory are never looked at;
- an entry that matches no file or directory below the rule file's directory.

- `Inspect.ruleSet`: the first five checks, ordered by line.
- `Inspect.unused`: the last check, against a listing of the directory.
-/

namespace IgnoreRules.Inspect

/-- A warning about a pattern. -/
def warning (p : Pattern) (message : String) : Diagnostic :=
  ⟨p.sourceFile.getD "", p.lineNumber, p.raw, message, .warning⟩

/-- Warnings for every entry that repeats an earlier one, naming the line of the first. -/
def duplicates (patterns : List Pattern) : List Diagnostic :=
  let step := fun (acc : List (String × Int) × List Diagnostic) (p : Pattern) =>
    let key := Text.strip p.raw
    match acc.1.lookup key with
    | some line => (acc.1, acc.2 ++ [warning p ("Duplicate entry, already defined on line " ++
        toString line)])
    | none => (acc.1 ++ [(key, p.lineNumber)], acc.2)
  (patterns.foldl step ([], [])).2

/-- The text with every backslash that is followed by a character other than a line feed
replaced by that character. -/
def unescape : List Char → List Char
  | '\\' :: c :: rest => if c == '\n' then '\\' :: unescape (c :: rest) else c :: unescape rest
  | c :: rest => c :: unescape rest
  | [] => []

/-- Whether `./` occurs in a list of characters. -/
def hasDotSlash : List Char → Bool
  | '.' :: '/' :: _ => true
  | _ :: rest => hasDotSlash rest
  | [] => false

/-- The relative-entry check. -/
def relative (p : Pattern) : Option Diagnostic :=
  if hasDotSlash (unescape p.raw.toList) then
    some (warning p "Relative entry: './' and '../' are not supported in rule files")
  else none

/-- Whether a backslash stands before an ASCII letter or digit. -/
def hasSuspiciousBackslash : List Char → Bool
  | '\\' :: c :: rest => (c.isAlphanum && c.toNat < 128) || hasSuspiciousBackslash (c :: rest)
  | _ :: rest => hasSuspiciousBackslash rest
  | [] => false

/-- The backslash check. -/
def backslash (p : Pattern) : Option Diagnostic :=
  if hasSuspiciousBackslash p.raw.toList then
    some (warning p "Pattern contains backslash. Use forward slashes for paths.")
  else none

/-- The entries that ignore nearly everything. -/
def broadBodies : List String := ["*", "**", "**/*", "/*", "/**"]

/-- The broad-entry check, for entries that are not negations. -/
def broad (p : Pattern) : Option Diagnostic :=
  if p.negated then none
  else
    let lead := if (p.raw.toList.dropWhile Text.isWhitespace).head? == some '/' then "/" else ""
    if broadBodies.contains (lead ++ p.body) then
      some (warning p "Very broad pattern - will exclude many files")
    else none

/-- The most recent of `earlier` (given nearest first) that matches a directory, if any. -/
def firstMatching (parts : List String) (ignoreCase : Bool) :
    List Pattern → Except MatchError (Option Pattern)
  | [] => pure none
  | q :: rest => do
    if ← q.matchParts parts true ignoreCase then pure (some q)
    else firstMatching parts ignoreCase rest

/-- Checks the directories above an anchored negation, shallowest first, as long as the leading
segments are literal: at the first directory that some earlier entry matches, that entry
decides; a non-negated one makes the negation ineffective. -/
def blockedBy (p : Pattern) (earlier : List Pattern) (ignoreCase : Bool) :
    List String → List Segment → Except MatchError (Option Diagnostic)
  | _, [] => pure none
  | _, [_] => pure none
  | above, s :: rest =>
    if !s.isLiteral then pure none
    else do
      let dir := above ++ [s.text]
      match ← firstMatching dir ignoreCase earlier with
      | some q =>
        if q.negated then pure none
        else pure (some (warning p ("Negation has no effect: parent directory '" ++
          "/".intercalate dir ++ "' is excluded by line " ++ toString q.lineNumber)))
      | none => blockedBy p earlier ignoreCase dir rest

/-- Warnings for anchored negations below a directory that an earlier entry excludes. -/
def unreachableNegations (patterns : List Pattern) (ignoreCase : Bool) :
    Except MatchError (List Diagnostic) := do
  let indexed := patterns.zip (List.range patterns.length)
  let found ← indexed.mapM fun (p, i) =>
    if p.negated && p.anchored then blockedBy p (patterns.take i).reverse ignoreCase [] p.segments
    else pure none
  pure found.reduceOption

/-- Sorts diagnostics by line, keeping the order of those on one line. -/
def byLine (ds : List Diagnostic) : List Diagnostic :=
  ds.mergeSort fun a b => decide (a.line ≤ b.line)

/-- The warnings of a rule set, ordered by line: duplicates, then the relative, backslash and
broad checks entry by entry, then unreachable negations. -/
def ruleSet (rs : RuleSet) (ignoreCase : Bool) : Except MatchError (List Diagnostic) := do
  let perEntry := rs.patterns.flatMap fun p => [relative p, backslash p, broad p].reduceOption
  let negations ← unreachableNegations rs.patterns ignoreCase
  pure (byLine (duplicates rs.patterns ++ perEntry ++ negations))

/-- Whether a pattern matches some entry of a listing of (components, is a directory). -/
def matchesSome (p : Pattern) (ignoreCase : Bool) : List (List String × Bool) → Except MatchError Bool
  | [] => pure false
  | (parts, dir) :: rest => do
    if ← p.matchParts parts dir ignoreCase then pure true else matchesSome p ignoreCase rest

/-- Warnings for the non-negated entries that match nothing in a listing of the directory. -/
def unused (rs : RuleSet) (listing : List (List String × Bool)) (ignoreCase : Bool) :
    Except MatchError (List Diagnostic) := do
  let found ← rs.patterns.mapM fun p => do
    if p.negated then pure none
    else if ← matchesSome p ignoreCase listing then pure none
    else pure (some (warning p "Unused entry: matches no file or directory"))
  pure found.reduceOption

end IgnoreRules.Inspect
