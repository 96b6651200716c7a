/-!
# Patterns

A rule line such as `!build/**/*.o` is parsed into a `Pattern` (pattern.py:32–127): a list of
`/`-separated segments, each either the globstar `**` or a glob over one path component, together
with the flags for negation (`!`), anchoring (a leading or inner `/`) and directory-only rules (a
trailing `/`).

- `Token`: the pieces of one component glob: literal text, `?`, `*` and bracket classes.
- `Segment`: a globstar or a component glob with its source text and tokens.
- `Pattern`: the parsed rule with its raw text, source file and line number.
- `SyntaxProblem`, `SyntaxError`: why a line does not parse, and where.
-/

namespace IgnoreRules

/-- The named classes allowed inside brackets, as in `[[:digit:]]`. -/
inductive NamedClass where
  | alnum | alpha | blank | cntrl | digit | graph | lower | print | punct | space | upper | xdigit
  deriving DecidableEq, Repr

namespace NamedClass

/-- Every named class, in alphabetical order. -/
def all : List NamedClass :=
  [alnum, alpha, blank, cntrl, digit, graph, lower, print, punct, space, upper, xdigit]

/-- The name written between `[:` and `:]`. -/
def name : NamedClass → String
  | alnum => "alnum" | alpha => "alpha" | blank => "blank" | cntrl => "cntrl"
  | digit => "digit" | graph => "graph" | lower => "lower" | print => "print"
  | punct => "punct" | space => "space" | upper => "upper" | xdigit => "xdigit"

/-- The class of a name, if it is one of the twelve. -/
def ofName? (s : String) : Option NamedClass := all.find? (·.name == s)

end NamedClass

/-- A bracket expression: inclusive character ranges, named classes, and whether the whole
set is complemented. A single character `c` is the range `(c, c)`. -/
structure CharClass where
  ranges : List (Char × Char)
  classes : List NamedClass
  negated : Bool
  deriving DecidableEq, Repr

/-- One piece of a component glob. -/
inductive Token where
  /-- Text that must appear exactly (escapes already removed). -/
  | lit (text : String)
  /-- `?`: exactly one character. -/
  | any
  /-- `*`: any run of characters inside one component. -/
  | star
  /-- `[...]`: one character of a bracket expression. -/
  | cls (c : CharClass)
  deriving DecidableEq, Repr

/-- Whether a token is literal text. -/
def Token.isLit : Token → Bool
  | .lit _ => true
  | _ => false

/-- One `/`-separated piece of a pattern. -/
inductive Segment where
  /-- `**`: zero or more whole components. -/
  | globstar
  /-- A glob over one component, with the text it was written as. -/
  | glob (text : String) (tokens : List Token)
  deriving DecidableEq, Repr

namespace Segment

/-- The text of the segment as written in the rule. -/
def text : Segment → String
  | globstar => "**"
  | glob t _ => t

/-- The tokens of a component glob; a globstar has none. -/
def tokens : Segment → List Token
  | globstar => []
  | glob _ ts => ts

/-- Whether the segment is the globstar. -/
def isGlobstar : Segment → Bool
  | globstar => true
  | glob _ _ => false

/-- A segment is literal when it is a component glob made of literal text only. -/
def isLiteral : Segment → Bool
  | globstar => false
  | glob _ ts => ts.all Token.isLit

end Segment

/-- A parsed rule line. -/
structure Pattern where
  /-- The line without its line break (and without a byte order mark on the first line). -/
  raw : String
  segments : List Segment
  /-- Matches only relative to the rule file's directory, not at any depth. -/
  anchored : Bool
  /-- Matches directories only. -/
  directoryOnly : Bool
  /-- A match re-includes the path instead of ignoring it. -/
  negated : Bool
  sourceFile : Option String
  lineNumber : Int
  deriving DecidableEq, Repr

/-- The pattern text without negation, anchoring and trailing slash: the segments joined by `/`. -/
def Pattern.body (p : Pattern) : String :=
  "/".intercalate (p.segments.map Segment.text)

/-- The reasons a rule line is rejected. -/
inductive SyntaxProblem where
  /-- A backslash ends a component, so it escapes nothing. -/
  | trailingBackslash
  /-- A bracket expression is not closed before the component ends. -/
  | unterminatedClass
  /-- A `[:name:]` whose name is not one of the twelve classes. -/
  | unknownClass (name : String)
  /-- A range whose upper end comes before its lower end. -/
  | invalidRange (low high : Char)
  deriving DecidableEq, Repr

/-- The message of a syntax problem. -/
def SyntaxProblem.message : SyntaxProblem → String
  | .trailingBackslash => "trailing backslash escapes nothing"
  | .unterminatedClass => "unterminated character class"
  | .unknownClass name => "unknown character class [:" ++ name ++ ":]"
  | .invalidRange low high => "invalid character range " ++ low.toString ++ "-" ++ high.toString

/-- A rejected rule line, with its file, line number and raw text. -/
structure SyntaxError where
  problem : SyntaxProblem
  sourceFile : Option String
  lineNumber : Int
  raw : String
  deriving DecidableEq, Repr

/-- The message of the underlying problem. -/
def SyntaxError.message (e : SyntaxError) : String := e.problem.message

/-- `file:line: message`, with `<string>` standing for a line of no file (or of an empty name). -/
def SyntaxError.render (e : SyntaxError) : String :=
  let file := match e.sourceFile with
    | some f => if f.isEmpty then "<string>" else f
    | none => "<string>"
  file ++ ":" ++ toString e.lineNumber ++ ": " ++ e.message

end IgnoreRules
