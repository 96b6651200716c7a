import IgnoreRules.Pattern.Parse
import IgnoreRules.Glob.Path
import IgnoreRules.Path.Posix
import IgnoreRules.Digest.Sha256

/-!
# Rule sets

A rule set holds the patterns of one rule file (rule_set.py:16–109, errors.py:40–63), the directory
they are relative to, the problems found while reading the file, and the digest of its text. Each
rule set is built with a version number taken from a counter that only grows, so two builds never
share a version, and a cached verdict can name the exact rule sets it came from.

Inside one rule set the last matching pattern decides: `RuleSet.evaluate` scans the patterns
from the end and gives the verdict of the first one that matches.

- `Diagnostic`: a problem in a rule file, an error or a warning, with file, line and pattern.
- `Verdict`: whether a path is ignored, and the pattern that decided.
- `RuleSet.ofText`, `RuleSet.empty`: building a rule set with a given version.
- `RuleSet.evaluate`: the verdict of the last matching pattern, if any.
-/

namespace IgnoreRules

/-- How serious a diagnostic is. -/
inductive Severity where
  | error
  | warning
  deriving DecidableEq, Repr

/-- The word for a severity. -/
def Severity.name : Severity → String
  | .error => "error"
  | .warning => "warning"

/-- A problem found in a rule file. -/
structure Diagnostic where
  file : String
  line : Int
  pattern : String
  message : String
  severity : Severity
  deriving DecidableEq, Repr

/-- `file:line: severity: message`. -/
def Diagnostic.render (d : Diagnostic) : String :=
  d.file ++ ":" ++ toString d.line ++ ": " ++ d.severity.name ++ ": " ++ d.message

/-- The error diagnostic of a line that does not parse; a line of no file gets the empty name. -/
def Diagnostic.ofSyntaxError (e : SyntaxError) : Diagnostic :=
  ⟨e.sourceFile.getD "", e.lineNumber, e.raw, e.message, .error⟩

/-- The error diagnostic of a file that could not be read. -/
def Diagnostic.unreadable (path reason : String) : Diagnostic :=
  ⟨path, 0, "", reason, .error⟩

/-- Whether a path is ignored, and the pattern that decided, if any. -/
structure Verdict where
  ignored : Bool
  pattern : Option Pattern
  deriving DecidableEq, Repr

/-- The verdict when no pattern decides. -/
def Verdict.notIgnored : Verdict := ⟨false, none⟩

/-- The rank of a rule set among those of one directory, lower ranks sweeping first: defaults,
then outer rule files, then the directory's own files. Any integer is a rank. -/
abbrev Origin := Int

namespace Origin

/-- Built-in default patterns. -/
def defaults : Origin := 0
/-- Rule files named in the configuration, applied at the root. -/
def outer : Origin := 1
/-- Rule files found in the tree. -/
def found : Origin := 2

end Origin

/-- The patterns of one rule file, scoped to a base directory. -/
structure RuleSet where
  id : String
  baseDir : PosixPath
  patterns : List Pattern
  version : Nat
  origin : Origin
  errors : List Diagnostic
  digest : String
  deriving DecidableEq, Repr

/-- The digest of a rule file's text. -/
def contentDigest (contents : String) : String := Sha256.hexOfString contents

/-- The first `n` elements, where a negative `n` leaves off the last `-n` elements. -/
def takeUpTo {α : Type} (n : Int) (xs : List α) : List α :=
  if 0 ≤ n then xs.take n.toNat else xs.take (xs.length - n.natAbs)

namespace RuleSet

/-- Builds the rule set of a rule file's text. Lines that do not parse become error diagnostics;
beyond `maxPatterns` patterns one more error is added and the rest are dropped. -/
def ofText (version : Nat) (id : String) (baseDir : PosixPath) (contents : String)
    (origin : Origin) (maxPatterns : Int) : RuleSet :=
  let (patterns, syntaxErrors) := Pattern.ofText contents (some id)
  let errors := syntaxErrors.map Diagnostic.ofSyntaxError
  let tooMany := decide (maxPatterns < patterns.length)
  let errors := if tooMany then
      errors ++ [⟨id, 0, "", "Too many patterns: " ++ toString patterns.length ++
        " (max: " ++ toString maxPatterns ++ ")", .error⟩]
    else errors
  let patterns := if tooMany then takeUpTo maxPatterns patterns else patterns
  { id, baseDir, patterns, version, origin, errors, digest := contentDigest contents }

/-- A rule set that contributes no pattern, such as that of an unreadable file; its digest is
empty. -/
def empty (version : Nat) (id : String) (baseDir : PosixPath) (errors : List Diagnostic)
    (origin : Origin) : RuleSet :=
  { id, baseDir, patterns := [], version, origin, errors, digest := "" }

/-- The verdict of the last pattern (in file order) that matches a path given as components
relative to the base directory, or `none` when no pattern matches. -/
def evaluateFrom (parts : List String) (isDirectory ignoreCase : Bool) :
    List Pattern → Except MatchError (Option Verdict)
  | [] => pure none
  | p :: rest => do
    if ← p.matchParts parts isDirectory ignoreCase then pure (some ⟨!p.negated, some p⟩)
    else evaluateFrom parts isDirectory ignoreCase rest

/-- The verdict of the last matching pattern, scanning the patterns from the end. -/
def evaluate (rs : RuleSet) (parts : List String) (isDirectory ignoreCase : Bool) :
    Except MatchError (Option Verdict) :=
  evaluateFrom parts isDirectory ignoreCase rs.patterns.reverse

/-- The number of patterns. -/
def size (rs : RuleSet) : Nat := rs.patterns.length

end RuleSet

end IgnoreRules
