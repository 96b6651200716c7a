import IgnoreRules.Pattern.Basic
import IgnoreRules.Text.Lines

/-!
# Reading rule lines

`Pattern.ofLine` reads one rule line (pattern.py:130–338). The line loses its line break (and, on
the first line, a byte order mark), then unescaped trailing blanks; a blank line or one starting
with `#` gives no pattern. A leading `!` negates, trailing unescaped slashes make the rule
directory-only, a leading slash or any inner slash anchors it. The remaining text is cut at every
`/` (escapes do not protect a slash here); empty pieces vanish, consecutive globstars collapse, and
every other piece is scanned into tokens.

Scanning a component goes left to right: `\x` is the literal `x`, a run of stars is one star,
`?` is any character, and `[` opens a bracket expression. Inside brackets an optional `!` or `^`
complements the set, a `]` closes it except as the first item, `[:name:]` names a class, `\`
escapes the next character, and `a-z` is a range unless the `-` is followed by the closing `]`.

- `Pattern.ofLine`: one line to a pattern, nothing, or a syntax error.
- `Pattern.ofLines`, `Pattern.ofText`: a whole file, errors collected instead of stopping.
-/

namespace IgnoreRules

namespace Scan

/-- Whether the character after `before` (given nearest first) is escaped: an odd number of
backslashes stands right before it. -/
def escapedAfter (before : List Char) : Bool :=
  (before.takeWhile (· == '\\')).length % 2 == 1

/-- Drops unescaped spaces and tabs from the end of a text given in reverse. -/
def dropTrailingBlanks : List Char → List Char
  | [] => []
  | c :: rest =>
    if (c == ' ' || c == '\t') && !escapedAfter rest then dropTrailingBlanks rest
    else c :: rest

/-- Drops unescaped slashes from the end of a text given in reverse, and tells whether any were
dropped. -/
def dropTrailingSlashes : List Char → Bool × List Char
  | [] => (false, [])
  | c :: rest =>
    if c == '/' && !escapedAfter rest then (true, (dropTrailingSlashes rest).2)
    else (false, c :: rest)

/-- Splits off the text before the first `:]`, with what follows it. -/
def breakAtClassClose : (cs : List Char) → Option (List Char × {r : List Char // r.length < cs.length})
  | ':' :: ']' :: rest => some ([], ⟨rest, by simp only [List.length_cons]; omega⟩)
  | c :: rest =>
    (breakAtClassClose rest).map fun (name, after) =>
      (c :: name, ⟨after.1, by have := after.2; simp; omega⟩)
  | [] => none

/-- A named class opening the text: `[:`, a name, and the first `:]` after it. -/
def namedClassAt : (cs : List Char) → Option (String × {r : List Char // r.length < cs.length})
  | '[' :: ':' :: rest =>
    (breakAtClassClose rest).map fun (name, after) =>
      (String.ofList name, ⟨after.1, by have := after.2; simp; omega⟩)
  | _ => none

/-- Reads the end of a bracket item that starts with `c`: a range `c-h` when a `-` and a
character other than `]` follow (`h` may be escaped), else the single character `c`. -/
def readItem (c : Char) :
    (rest : List Char) → Except SyntaxProblem ((Char × Char) × {r : List Char // r.length ≤ rest.length})
  | '-' :: h :: more =>
    if h == ']' then pure ((c, c), ⟨'-' :: h :: more, Nat.le_refl _⟩)
    else if h == '\\' then
      match more with
      | [] => throw .unterminatedClass
      | e :: more' =>
        if e < c then throw (.invalidRange c e)
        else pure ((c, e), ⟨more', by simp; omega⟩)
    else if h < c then throw (.invalidRange c h)
    else pure ((c, h), ⟨more, by simp; omega⟩)
  | rest => pure ((c, c), ⟨rest, Nat.le_refl _⟩)

/-- Where a component scan stands: in plain text, or inside a bracket expression with the
items read so far. -/
inductive Mode where
  | text
  | bracket (negated first : Bool) (ranges : List (Char × Char)) (classes : List NamedClass)

/-- Appends the pending literal characters (held in reverse) as one literal token. -/
def flush (pending : List Char) (tokens : List Token) : List Token :=
  if pending.isEmpty then tokens else tokens ++ [.lit (String.ofList pending.reverse)]

/-- Scans the rest of a component. `pending` holds literal characters not yet emitted, in
reverse; `tokens` the tokens emitted so far. -/
def run (mode : Mode) (pending : List Char) (tokens : List Token) :
    (cs : List Char) → Except SyntaxProblem (List Token)
  | [] =>
    match mode with
    | .text => pure (flush pending tokens)
    | .bracket .. => throw .unterminatedClass
  | c :: rest =>
    match mode with
    | .text =>
      if c == '\\' then
        match rest with
        | [] => throw .trailingBackslash
        | d :: rest' => run .text (d :: pending) tokens rest'
      else if c == '*' then
        let tokens := flush pending tokens
        run .text [] (if tokens.getLast? == some .star then tokens else tokens ++ [.star]) rest
      else if c == '?' then run .text [] (flush pending tokens ++ [.any]) rest
      else if c == '[' then
        match rest with
        | d :: rest' =>
          if d == '!' || d == '^' then run (.bracket true true [] []) pending tokens rest'
          else run (.bracket false true [] []) pending tokens (d :: rest')
        | [] => run (.bracket false true [] []) pending tokens []
      else run .text (c :: pending) tokens rest
    | .bracket negated first ranges classes =>
      if c == ']' && !first then
        run .text [] (flush pending tokens ++ [.cls ⟨ranges, classes, negated⟩]) rest
      else
        match namedClassAt (c :: rest) with
        | some (name, after) =>
          match NamedClass.ofName? name with
          | some k => run (.bracket negated false ranges (classes ++ [k])) pending tokens after.1
          | none => throw (.unknownClass name)
        | none =>
          if c == '\\' then
            match rest with
            | [] => throw .unterminatedClass
            | d :: rest' => do
              let (range, after) ← readItem d rest'
              run (.bracket negated false (ranges ++ [range]) classes) pending tokens after.1
          else do
            let (range, after) ← readItem c rest
            run (.bracket negated false (ranges ++ [range]) classes) pending tokens after.1
termination_by cs => cs.length
decreasing_by
  all_goals first
    | (have h := after.2; simp only [List.length_cons] at h ⊢; omega)
    | (simp only [List.length_cons]; omega)

/-- The tokens of one component glob. -/
def tokens (piece : String) : Except SyntaxProblem (List Token) :=
  run .text [] [] piece.toList

/-- The segments of a pattern body cut at `/`: empty pieces vanish, a globstar right after a
globstar adds nothing, and every other piece is scanned. -/
def segments (pieces : List String) : Except SyntaxProblem (List Segment) :=
  pieces.foldlM (fun acc piece =>
    if piece.isEmpty then pure acc
    else if piece == "**" then
      pure (if acc.getLast? == some .globstar then acc else acc ++ [.globstar])
    else do
      let ts ← tokens piece
      pure (acc ++ [.glob piece ts])) []

end Scan

/-- The line without its trailing run of carriage returns and line feeds, and without a byte
order mark when it is the first line (or has no positive number). -/
def rawLine (line : String) (lineNumber : Int) : List Char :=
  let cs := (line.toList.reverse.dropWhile (fun c => c == '\r' || c == '\n')).reverse
  match cs with
  | '\uFEFF' :: rest => if lineNumber ≤ 1 then rest else cs
  | _ => cs

/-- Reads one rule line: `none` for a blank line, a comment, or a line with no segments. -/
def Pattern.ofLine (line : String) (sourceFile : Option String) (lineNumber : Int) :
    Except SyntaxError (Option Pattern) :=
  let raw := rawLine line lineNumber
  let text := (Scan.dropTrailingBlanks raw.reverse).reverse
  match text with
  | [] => pure none
  | c :: rest =>
    if c == '#' then pure none
    else
      let (negated, text) := if c == '!' then (true, rest) else (false, c :: rest)
      let (directoryOnly, revText) := Scan.dropTrailingSlashes text.reverse
      let text := revText.reverse
      let leading := text.head? == some '/'
      let text := text.dropWhile (· == '/')
      let anchored := leading || text.contains '/'
      match Scan.segments ((String.ofList text).splitOn "/") with
      | .error problem => throw ⟨problem, sourceFile, lineNumber, String.ofList raw⟩
      | .ok [] => pure none
      | .ok segments =>
        pure (some { raw := String.ofList raw, segments, anchored, directoryOnly, negated,
                     sourceFile, lineNumber })

/-- Reads the lines of a file, numbered from 1, keeping the patterns and the errors in file
order. -/
def Pattern.ofLines (lines : List String) (sourceFile : Option String) :
    List Pattern × List SyntaxError :=
  let step := fun (acc : List Pattern × List SyntaxError) (entry : String × Nat) =>
    match Pattern.ofLine entry.1 sourceFile entry.2 with
    | .ok (some p) => (acc.1 ++ [p], acc.2)
    | .ok none => acc
    | .error e => (acc.1, acc.2 ++ [e])
  (lines.zip (List.range' 1 lines.length)).foldl step ([], [])

/-- Reads the text of a file, cut into lines at every line boundary. -/
def Pattern.ofText (text : String) (sourceFile : Option String) : List Pattern × List SyntaxError :=
  Pattern.ofLines (Text.splitLines text) sourceFile

end IgnoreRules
