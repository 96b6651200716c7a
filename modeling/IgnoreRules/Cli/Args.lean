import IgnoreRules.Text.Printable
import IgnoreRules.Text.Integer

/-!
# Command line arguments

The command line is `ignore-engine [global options] COMMAND [command options and arguments]`
(cli.py:97–137).

Global options: `--root DIR` (default `.`), `--log-level LEVEL`, `--log-file FILE`,
`--ignore-case`, `--no-defaults`. Commands:

- `check PATH...` with `-v`/`--verbose`, `-n`/`--non-matching` and `--dir`;
- `ls [PATH]`;
- `lint` with `--errors-only` and `--unused`;
- `watch` with `--debounce SECONDS` (default `0.5`).

Each parser (the global one, then the command's) reads its arguments the usual way for such
parsers. Every argument is first classified as an option, a positional argument, or the first
`--`, after which everything is positional. A long option may be shortened to a prefix that names
it alone; a prefix of several options refuses the whole line at once. `--name=value` gives a value
inline, and a one-dash flag may carry more one-dash flags (`-vn`); an unknown letter there, like
an unknown option, is left over. The arguments are then read from left to right. An option takes
its value from the next argument when that is positional. A command's positional argument takes
the next run of positional arguments, with the `--` among them dropped. The global positional is
the command itself, which takes everything after it. Help (`-h`, `--help`) stops at once, as does
an error; arguments left over refuse the line at the end.

- `Args.parse`: the invocation a command line asks for, a request for help, or a refusal.
-/

namespace IgnoreRules

namespace Cli

/-- The global options. -/
structure Options where
  root : String
  logLevel : Option String
  logFile : Option String
  ignoreCase : Bool
  noDefaults : Bool
  deriving DecidableEq, Repr

/-- The commands. -/
inductive Command where
  /-- Tell which paths are ignored. -/
  | check (paths : List String) (verbose nonMatching directory : Bool)
  /-- List the files that are not ignored, below a directory or the root. -/
  | ls (path : Option String)
  /-- Report the problems of the rule files. -/
  | lint (errorsOnly unused : Bool)
  /-- Keep the rule sets current while files change, letting bursts settle for some seconds. -/
  | watch (debounce : String)
  deriving DecidableEq, Repr

/-- What a command line asks for. -/
structure Invocation where
  options : Options
  command : Command
  deriving DecidableEq, Repr

/-- The outcome of reading a command line. -/
inductive Parsed where
  | run (inv : Invocation)
  /-- Help was asked for, of the whole line or of a command. -/
  | help (command : Option String)
  /-- The line is refused. -/
  | refused
  deriving DecidableEq, Repr

namespace Args

/-- An option a parser knows: its spellings, the setting it fills and whether it takes a
value, which must then read as a decimal number when `decimal` is set. The setting `help` asks
for help. -/
structure OptionSpec where
  names : List String
  key : String
  takesValue : Bool
  decimal : Bool := false
  deriving DecidableEq, Repr

/-- What stands right after the spelling of an option inside one argument. -/
inductive Attachment where
  /-- Nothing. -/
  | none
  /-- More letters after a one-dash spelling, as in `-vn`. -/
  | glued (rest : List Char)
  /-- The text after `=`, as in `--root=src`. -/
  | equals (rest : List Char)
  deriving DecidableEq, Repr

/-- The size of an attachment, which shrinks as bundled flags are read. -/
def Attachment.size : Attachment → Nat
  | .none => 0
  | .glued cs => cs.length + 1
  | .equals cs => cs.length + 1

/-- One argument as a parser classifies it. -/
inductive Item where
  /-- A positional argument. -/
  | arg (s : String)
  /-- The first `--`; every argument after it is positional. -/
  | separator
  /-- An option of the parser, by the spelling it was matched to. -/
  | known (spec : OptionSpec) (name : String) (att : Attachment)
  /-- Something that looks like an option the parser does not have. -/
  | unknown (s : String)
  deriving DecidableEq, Repr

/-- Whether an item is an option, known or not. -/
def Item.isOption : Item → Bool
  | .known .. | .unknown _ => true
  | _ => false

/-- Whether a text is a negative number such as `-1` or `-.5`. -/
def isNegativeNumber (s : String) : Bool :=
  match s.toList with
  | '-' :: rest =>
    match rest.span Char.isDigit with
    | (whole, []) => !whole.isEmpty
    | (_, '.' :: ds) => !ds.isEmpty && ds.all Char.isDigit
    | _ => false
  | _ => false

/-- The options an argument can stand for by abbreviation. A two-dash argument names every long
spelling it is a prefix of (up to an `=`, whose text is attached); a one-dash argument names the
short option of its first letter (the letters after it attached) and every spelling it is a
prefix of. -/
def abbreviations (specs : List OptionSpec) (arg : String) : List Item :=
  match arg.toList with
  | '-' :: '-' :: _ =>
    let (stem, att) := match arg.toList.span (· != '=') with
      | (stem, '=' :: value) => (String.ofList stem, Attachment.equals value)
      | (stem, _) => (String.ofList stem, .none)
    specs.flatMap fun s => (s.names.filter (·.startsWith stem)).map fun n => .known s n att
  | '-' :: c :: rest =>
    specs.flatMap fun s => s.names.filterMap fun n =>
      if n == String.ofList ['-', c] then some (.known s n (.glued rest))
      else if n.startsWith arg then some (.known s n .none)
      else none
  | _ => []

/-- How a parser classifies one argument (not `--`); `none` when it abbreviates several
options. An argument is positional when it is empty, does not start with `-`, is `-` alone, or
names no option and is a negative number or holds a blank. -/
def classify (specs : List OptionSpec) (arg : String) : Option Item :=
  match arg.toList with
  | [] => some (.arg arg)
  | c :: rest =>
    if c != '-' then some (.arg arg)
    else match specs.find? (·.names.contains arg) with
      | some s => some (.known s arg .none)
      | none =>
        if rest.isEmpty then some (.arg arg)
        else
          let inline := match arg.toList.span (· != '=') with
            | (stem, '=' :: value) =>
              (specs.find? (·.names.contains (String.ofList stem))).map fun s =>
                Item.known s (String.ofList stem) (.equals value)
            | _ => none
          match inline with
          | some r => some r
          | none =>
            match abbreviations specs arg with
            | [] => if isNegativeNumber arg || arg.contains ' ' then some (.arg arg) else some (.unknown arg)
            | [r] => some r
            | _ => none

/-- Classifies the arguments of a parser, each with its text; `none` when one is ambiguous. -/
def classifyAll (specs : List OptionSpec) : List String → Option (List (String × Item))
  | [] => some []
  | "--" :: rest => some (("--", .separator) :: rest.map fun a => (a, .arg a))
  | a :: rest => do
    let item ← classify specs a
    let items ← classifyAll specs rest
    pure ((a, item) :: items)

/-- Why a parser stops before the end of its arguments. -/
inductive Stop where
  /-- Help was asked for. -/
  | help
  /-- The arguments are in error. -/
  | error
  deriving DecidableEq, Repr

/-- The settings filled so far: key and value, `"true"` for a flag, in order. -/
abbrev Settings := List (String × String)

/-- What reading one option gives: the options to apply in order, each with its value, a text
left over from a bundle, and how many of the following arguments were used. -/
structure Reading where
  actions : List (OptionSpec × Option String)
  leftOver : Option String
  used : Nat
  deriving DecidableEq, Repr

/-- What is attached after one bundled letter: nothing, the text after an `=`, or more letters. -/
def Attachment.ofRest : List Char → Attachment
  | [] => .none
  | '=' :: value => .equals value
  | more => .glued more

theorem Attachment.size_ofRest (more : List Char) :
    (Attachment.ofRest more).size ≤ more.length + 1 := by
  unfold Attachment.ofRest
  split <;> simp [Attachment.size]

/-- Reads a known option spelled `name` with its attachment, `rest` being the items after it. A
value option takes an attached text, or else the next item when it is positional. A flag takes no
text after `=`. A flag spelled with one dash reads glued letters as more options: one that is no
option of the parser is left over with the letters after it, and a dash there is an error. -/
def readOption (specs : List OptionSpec) (rest : List (String × Item)) (spec : OptionSpec)
    (name : String) : Attachment → Except Stop Reading
  | .none =>
    if spec.takesValue then
      match rest with
      | (_, .arg v) :: _ => pure ⟨[(spec, some v)], none, 1⟩
      | _ => throw .error
    else pure ⟨[(spec, none)], none, 0⟩
  | .equals e =>
    if spec.takesValue then pure ⟨[(spec, some (String.ofList e))], none, 0⟩ else throw .error
  | .glued [] => if spec.takesValue then pure ⟨[(spec, some "")], none, 0⟩ else throw .error
  | .glued (c :: more) =>
    if spec.takesValue then pure ⟨[(spec, some (String.ofList (c :: more)))], none, 0⟩
    else if name.startsWith "--" || c == '-' then throw .error
    else
      let short := String.ofList ['-', c]
      match specs.find? (·.names.contains short) with
      | none => pure ⟨[(spec, none)], some (String.ofList ('-' :: c :: more)), 0⟩
      | some s =>
        match readOption specs rest s short (Attachment.ofRest more) with
        | .ok r => pure { r with actions := (spec, none) :: r.actions }
        | .error stop => throw stop
termination_by att => att.size
decreasing_by
  have h1 := Attachment.size_ofRest more
  have h2 : (Attachment.glued (c :: more)).size = more.length + 2 := by
    simp [Attachment.size]
  omega

/-- Whether a text reads as a decimal floating-point number: white space around it, a sign,
digits (of any script) with at most one point and single underscores between digits, an
exponent; or an infinity or not-a-number spelled out. -/
def isFloatText (s : String) : Bool :=
  let cs := (Text.strip s).toList.map fun c =>
    match Text.digitValue? c with
    | some d => Char.ofNat ('0'.toNat + d)
    | none => c
  let unsigned := match cs with
    | '+' :: rest | '-' :: rest => rest
    | rest => rest
  let word := String.ofList (unsigned.map Char.toLower)
  if word == "inf" || word == "infinity" || word == "nan" then true
  else
    let digitsOk := fun (ds : List Char) =>
      !ds.isEmpty && ds.head? != some '_' && ds.getLast? != some '_' &&
        ds.all (fun c => c.isDigit || c == '_') &&
        !((ds.zip ds.tail).any fun (a, b) => a == '_' && b == '_')
    let (mantissa, exponent) := unsigned.span fun c => c != 'e' && c != 'E'
    let mantissaOk := match mantissa.splitOn '.' with
      | [whole] => digitsOk whole
      | [whole, frac] =>
        (digitsOk whole && (frac.isEmpty || digitsOk frac)) || (whole.isEmpty && digitsOk frac)
      | _ => false
    let exponentOk := match exponent with
      | [] => true
      | _ :: '+' :: ds | _ :: '-' :: ds => digitsOk ds
      | _ :: ds => digitsOk ds
    mantissaOk && exponentOk

/-- Applies the options read, in order: help stops at once, a decimal value that does not read
as a number is an error. -/
def apply (filled : Settings) : List (OptionSpec × Option String) → Except Stop Settings
  | [] => pure filled
  | (spec, value) :: more =>
    if spec.key == "help" then throw .help
    else if spec.decimal && !isFloatText (value.getD "") then throw .error
    else apply (filled ++ [(spec.key, value.getD "true")]) more

/-- How many arguments a command's positional argument takes. -/
inductive Arity where
  /-- At most one. -/
  | optional
  /-- One or more. -/
  | oneOrMore
  deriving DecidableEq, Repr

/-- The positional run a positional argument takes from items that start with no option: a
leading `--`, then the arguments it allows, with `--` anywhere among them for one or more. Gives
the values (the `--` dropped) and how many items were taken, or `none` when one or more
arguments were wanted and there are none. -/
def takeRun (arity : Arity) (items : List (String × Item)) : Option (List String × Nat) :=
  let lead := (items.takeWhile (·.2 == .separator)).length
  let after := items.drop lead
  match arity with
  | .optional =>
    match after with
    | (a, .arg _) :: more => some ([a], lead + 1 + (more.takeWhile (·.2 == .separator)).length)
    | _ => some ([], lead)
  | .oneOrMore =>
    match after with
    | (_, .arg _) :: _ =>
      let run := after.takeWhile fun (_, i) => !i.isOption
      some ((run.filterMap fun (a, i) => if i == .separator then none else some a), lead + run.length)
    | _ => none

/-- Where a command's parser stands: the settings filled, the texts left over, and the values
of its positional argument once taken. -/
structure Progress where
  filled : Settings
  leftOver : List String
  values : Option (List String)
  deriving DecidableEq, Repr

/-- Reads a command's items from left to right. Options are read and applied; an unknown option
is left over; at the first item that is no option, the positional argument (if still wanted)
takes its run; other positional items are left over. At the end, a positional argument of at most
one value that was not met takes none. -/
def readCommand (specs : List OptionSpec) (arity : Option Arity) (p : Progress) :
    List (String × Item) → Except Stop Progress
  | [] =>
    match arity, p.values with
    | some .optional, none => pure { p with values := some [] }
    | _, _ => pure p
  | (_, .known spec name att) :: rest => do
    let r ← readOption specs rest spec name att
    let filled ← apply p.filled r.actions
    readCommand specs arity { p with filled, leftOver := p.leftOver ++ r.leftOver.toList }
      (rest.drop r.used)
  | (a, .unknown _) :: rest => readCommand specs arity { p with leftOver := p.leftOver ++ [a] } rest
  | (a, i) :: rest =>
    match arity, p.values with
    | some ar, none =>
      match takeRun ar ((a, i) :: rest) with
      | some (values, taken) =>
        readCommand specs arity { p with values := some values } (rest.drop (taken - 1))
      | none => readCommand specs arity { p with leftOver := p.leftOver ++ [a] } rest
    | _, _ => readCommand specs arity { p with leftOver := p.leftOver ++ [a] } rest
termination_by items => items.length
decreasing_by
  all_goals simp only [List.length_drop, List.length_cons]
  all_goals omega

/-- The last value given for a setting. -/
def lookup (filled : Settings) (key : String) : Option String := filled.reverse.lookup key

/-- Whether a flag was given. -/
def flag (filled : Settings) (key : String) : Bool := (lookup filled key).isSome

/-- The help option every parser has. -/
def helpSpec : OptionSpec := ⟨["-h", "--help"], "help", false, false⟩

/-- The global options. -/
def globalSpecs : List OptionSpec :=
  [helpSpec, ⟨["--root"], "root", true, false⟩, ⟨["--log-level"], "log-level", true, false⟩,
    ⟨["--log-file"], "log-file", true, false⟩, ⟨["--ignore-case"], "ignore-case", false, false⟩,
    ⟨["--no-defaults"], "no-defaults", false, false⟩]

/-- The options and the positional argument of a command. -/
def commandGrammar : String → Option (List OptionSpec × Option Arity)
  | "check" => some ([helpSpec, ⟨["-v", "--verbose"], "verbose", false, false⟩,
      ⟨["-n", "--non-matching"], "non-matching", false, false⟩, ⟨["--dir"], "dir", false, false⟩],
      some .oneOrMore)
  | "ls" => some ([helpSpec], some .optional)
  | "lint" => some ([helpSpec, ⟨["--errors-only"], "errors-only", false, false⟩,
      ⟨["--unused"], "unused", false, false⟩], none)
  | "watch" => some ([helpSpec, ⟨["--debounce"], "debounce", true, true⟩], none)
  | _ => none

/-- The command a command's parser read, when its positional argument was given as required. -/
def commandOf (name : String) (p : Progress) : Option Command :=
  match name, p.values with
  | "check", some paths =>
    some (.check paths (flag p.filled "verbose") (flag p.filled "non-matching") (flag p.filled "dir"))
  | "ls", some path => some (.ls path.head?)
  | "lint", _ => some (.lint (flag p.filled "errors-only") (flag p.filled "unused"))
  | "watch", _ => some (.watch ((lookup p.filled "debounce").getD "0.5"))
  | _, _ => none

/-- Runs a command's parser on the arguments after its name. -/
def parseCommand (name : String) (args : List String) : Except Stop (Option Command × List String) :=
  match commandGrammar name with
  | none => throw .error
  | some (specs, arity) =>
    match classifyAll specs args with
    | none => throw .error
    | some items => do
      let p ← readCommand specs arity ⟨[], [], none⟩ items
      pure (commandOf name p, p.leftOver)

/-- Reads the global items up to the command, from left to right: options are read and applied,
unknown options left over. At the first item that is no option the command begins; it must be a
command's name, not `--`. Gives the settings, the texts left over, and the command's name with
the arguments after it. -/
def readGlobal (filled : Settings) (leftOver : List String) :
    List (String × Item) → Except Stop (Settings × List String × String × List String)
  | [] => throw .error
  | (_, .known spec name att) :: rest => do
    let r ← readOption globalSpecs rest spec name att
    let filled ← apply filled r.actions
    readGlobal filled (leftOver ++ r.leftOver.toList) (rest.drop r.used)
  | (a, .unknown _) :: rest => readGlobal filled (leftOver ++ [a]) rest
  | (_, .separator) :: _ => throw .error
  | (a, .arg _) :: rest => pure (filled, leftOver, a, rest.map (·.1))
termination_by items => items.length
decreasing_by
  all_goals simp only [List.length_drop, List.length_cons]
  all_goals omega

/-- The invocation a command line asks for, a request for help, or a refusal. -/
def parse (args : List String) : Parsed :=
  match classifyAll globalSpecs args with
  | none => .refused
  | some items =>
    match readGlobal [] [] items with
    | .error .help => .help none
    | .error .error => .refused
    | .ok (filled, leftOver, name, rest) =>
      match parseCommand name rest with
      | .error .help => .help (some name)
      | .error .error => .refused
      | .ok (none, _) => .refused
      | .ok (some command, more) =>
        if !(leftOver ++ more).isEmpty then .refused
        else .run ⟨⟨(lookup filled "root").getD ".", lookup filled "log-level",
          lookup filled "log-file", flag filled "ignore-case", flag filled "no-defaults"⟩, command⟩

/-- The help text of the whole command line (`none`) or of a command, line by line, laid out
for a width of 78 columns. -/
def helpText : Option String → List String
  | none => [
      "usage: ignore-engine [-h] [--root ROOT] [--log-level LOG_LEVEL]",
      "                     [--log-file LOG_FILE] [--ignore-case] [--no-defaults]",
      "                     \x7bcheck,ls,lint,watch\x7d ...",
      "",
      "Evaluate gitignore-style rule files",
      "",
      "positional arguments:",
      "  \x7bcheck,ls,lint,watch\x7d",
      "    check               Check whether paths are ignored",
      "    ls                  List files that are not ignored",
      "    lint                Report problems in rule files",
      "    watch               Reload rule files as they change",
      "",
      "options:",
      "  -h, --help            show this help message and exit",
      "  --root ROOT           Workspace root (default: current directory)",
      "  --log-level LOG_LEVEL",
      "                        Log level (TRACE, DEBUG, INFO, WARNING, ERROR)",
      "  --log-file LOG_FILE   Also write logs to this file",
      "  --ignore-case         Match case-insensitively",
      "  --no-defaults         Do not ignore VCS metadata directories by default"]
  | some "check" => [
      "usage: ignore-engine check [-h] [-v] [-n] [--dir] paths [paths ...]",
      "",
      "positional arguments:",
      "  paths               Paths to check",
      "",
      "options:",
      "  -h, --help          show this help message and exit",
      "  -v, --verbose       Show the rule file, line and pattern that decided",
      "  -n, --non-matching  Also show paths that are not ignored (with -v)",
      "  --dir               Treat every path as a directory"]
  | some "ls" => [
      "usage: ignore-engine ls [-h] [path]",
      "",
      "positional arguments:",
      "  path        Directory to list (default: root)",
      "",
      "options:",
      "  -h, --help  show this help message and exit"]
  | some "lint" => [
      "usage: ignore-engine lint [-h] [--errors-only] [--unused]",
      "",
      "options:",
      "  -h, --help     show this help message and exit",
      "  --errors-only  Skip inspection warnings",
      "  --unused       Also warn about entries that match no file or directory"]
  | some _ => [
      "usage: ignore-engine watch [-h] [--debounce DEBOUNCE]",
      "",
      "options:",
      "  -h, --help           show this help message and exit",
      "  --debounce DEBOUNCE  Seconds to wait for a burst of changes to settle"]

end Args

end Cli

end IgnoreRules
