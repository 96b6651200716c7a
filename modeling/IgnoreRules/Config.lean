import IgnoreRules.Text.Integer
import IgnoreRules.Text.CaseMap
import IgnoreRules.Text.Printable

/-!
# Engine configuration

The settings of an engine (config.py:18–85, constants.py:6–35): which file names are rule files,
which outer rule files apply at the root, the size of the verdict cache, whether case is ignored,
whether the built-in exclusions of version-control directories apply, extra default patterns, and
the limits on rule file size and pattern count.

Settings are given as optional values; absent ones take their defaults. Numeric settings may be
numbers or decimal text and are clamped: the cache size to at least 0, the limits to at least 1.
An empty list of rule file names means the default; a text given for a list stands for its
characters. Values of the wrong kind, and names that are no setting, are refused. Settings can
also come from the `IGNORE_ENGINE_*` environment variables, which explicit values override
where they are not nothing.

- `Settings`: optional values for each field.
- `Config.ofSettings`: defaults, reading and clamping.
- `Config.fromEnv`: settings taken from environment variables first.
-/

namespace IgnoreRules

/-- A value given for a numeric setting. -/
inductive NumberSetting where
  /-- A whole number. -/
  | whole (n : Int)
  /-- A flag, counting as 1 or 0. -/
  | flag (b : Bool)
  /-- A decimal `mantissa / 10 ^ exponent`, whose fraction is cut off toward zero. -/
  | decimal (mantissa : Int) (exponent : Nat)
  /-- Text to be read as a decimal integer. -/
  | text (s : String)
  /-- Nothing at all. -/
  | null
  /-- A collection, named by its kind (`list`, `dict`), which is no number. -/
  | collection (kind : String)
  deriving DecidableEq, Repr

/-- A value given for a list setting. -/
inductive ListSetting where
  /-- A list of texts, or the keys of a mapping in their order. -/
  | items (xs : List String)
  /-- A text, standing for the list of its characters. -/
  | text (s : String)
  /-- Nothing at all. -/
  | null
  /-- A single value, named by its kind (`int`, `float`, `bool`), which is no list. -/
  | scalar (kind : String)
  deriving DecidableEq, Repr

/-- A value given for a yes-or-no setting: a truth value, or nothing, which counts as no and
is kept as given. -/
inductive FlagSetting where
  /-- A truth value. -/
  | given (b : Bool)
  /-- Nothing at all. -/
  | null
  deriving DecidableEq, Repr

/-- Whether a flag is on. -/
def FlagSetting.holds : FlagSetting → Bool
  | .given b => b
  | .null => false

/-- Why settings could not be taken. -/
inductive ConfigError where
  /-- A text given for a number is not a decimal integer. -/
  | notAnInteger (text : String)
  /-- A value of this kind was given for a number. -/
  | notANumber (kind : String)
  /-- A value of this kind was given for a list. -/
  | notIterable (kind : String)
  /-- A name was given that is no setting. -/
  | unknownSetting (name : String)
  deriving DecidableEq, Repr

/-- The message of a configuration error. -/
def ConfigError.message : ConfigError → String
  | .notAnInteger s => "invalid literal for int() with base 10: " ++ Text.quote s
  | .notANumber k =>
    "int() argument must be a string, a bytes-like object or a real number, not " ++ Text.quote k
  | .notIterable k => Text.quote k ++ " object is not iterable"
  | .unknownSetting n => "EngineConfig.__init__() got an unexpected keyword argument " ++ Text.quote n

/-- The integer a numeric setting stands for. -/
def NumberSetting.toInt : NumberSetting → Except ConfigError Int
  | .whole n => pure n
  | .flag b => pure (if b then 1 else 0)
  | .decimal m e => pure (m.tdiv (Nat.pow 10 e : Nat))
  | .text s =>
    match Text.readInteger? s with
    | some n => pure n
    | none => throw (.notAnInteger s)
  | .null => throw (.notANumber "NoneType")
  | .collection k => throw (.notANumber k)

/-- The texts a list setting stands for. -/
def ListSetting.toList : ListSetting → Except ConfigError (List String)
  | .items xs => pure xs
  | .text s => pure (s.toList.map String.singleton)
  | .null => throw (.notIterable "NoneType")
  | .scalar k => throw (.notIterable k)

/-- Optional values for the fields of a configuration, and the names given that are no setting,
in the order given, each with whether its value was nothing. -/
structure Settings where
  ruleFilenames : Option ListSetting := none
  outerFiles : Option ListSetting := none
  cacheSize : Option NumberSetting := none
  ignoreCase : Option FlagSetting := none
  useDefaults : Option FlagSetting := none
  defaultPatterns : Option ListSetting := none
  maxRuleFileSize : Option NumberSetting := none
  maxPatternsPerFile : Option NumberSetting := none
  unknown : List (String × Bool) := []
  deriving DecidableEq, Repr

/-- The settings of `given` where set, those of `base` elsewhere. A name that is no setting keeps
its first place and takes its last value. -/
def Settings.override (base given : Settings) : Settings where
  ruleFilenames := given.ruleFilenames <|> base.ruleFilenames
  outerFiles := given.outerFiles <|> base.outerFiles
  cacheSize := given.cacheSize <|> base.cacheSize
  ignoreCase := given.ignoreCase <|> base.ignoreCase
  useDefaults := given.useDefaults <|> base.useDefaults
  defaultPatterns := given.defaultPatterns <|> base.defaultPatterns
  maxRuleFileSize := given.maxRuleFileSize <|> base.maxRuleFileSize
  maxPatternsPerFile := given.maxPatternsPerFile <|> base.maxPatternsPerFile
  unknown := base.unknown.map (fun (n, isNull) => (n, (given.unknown.lookup n).getD isNull)) ++
    given.unknown.filter fun e => (base.unknown.lookup e.1).isNone

/-- The settings without those given as nothing. -/
def Settings.withoutNulls (s : Settings) : Settings where
  ruleFilenames := s.ruleFilenames.filter (· != .null)
  outerFiles := s.outerFiles.filter (· != .null)
  cacheSize := s.cacheSize.filter (· != .null)
  ignoreCase := s.ignoreCase.filter (· != .null)
  useDefaults := s.useDefaults.filter (· != .null)
  defaultPatterns := s.defaultPatterns.filter (· != .null)
  maxRuleFileSize := s.maxRuleFileSize.filter (· != .null)
  maxPatternsPerFile := s.maxPatternsPerFile.filter (· != .null)
  unknown := s.unknown.filter (!·.2)

/-- The settings of an engine, defaults applied and numbers clamped. -/
structure Config where
  ruleFilenames : List String
  outerFiles : List String
  cacheSize : Nat
  ignoreCase : FlagSetting
  useDefaults : FlagSetting
  defaultPatterns : List String
  maxRuleFileSize : Nat
  maxPatternsPerFile : Nat
  deriving DecidableEq, Repr

namespace Config

/-- The rule file name looked for by default. -/
def defaultRuleFilenames : List String := [".gitignore"]

/-- The outer rule file applied by default, relative to the root. -/
def defaultOuterFiles : List String := [".git/info/exclude"]

/-- The version-control directories excluded when defaults are used. -/
def builtinExclusions : List String := [".git/", ".hg/", ".svn/", ".bzr/"]

/-- Applies defaults, reads the lists and clamps the numbers. A name that is no setting is
refused before any value is read; then the values are read in the order rule file names, outer
files, cache size, size limit, pattern limit, default patterns, so that the first bad one is the
one reported. -/
def ofSettings (s : Settings) : Except ConfigError Config := do
  if let some (n, _) := s.unknown.head? then throw (.unknownSetting n)
  let names ← (s.ruleFilenames.getD (.items defaultRuleFilenames)).toList
  let outer ← (s.outerFiles.getD (.items defaultOuterFiles)).toList
  let cache ← (s.cacheSize.getD (.whole 10000)).toInt
  let size ← (s.maxRuleFileSize.getD (.whole 1048576)).toInt
  let count ← (s.maxPatternsPerFile.getD (.whole 10000)).toInt
  let extra ← (s.defaultPatterns.getD (.items [])).toList
  pure {
    ruleFilenames := if names.isEmpty then defaultRuleFilenames else names
    outerFiles := outer
    cacheSize := cache.toNat
    ignoreCase := s.ignoreCase.getD (.given false)
    useDefaults := s.useDefaults.getD (.given true)
    defaultPatterns := extra
    maxRuleFileSize := max 1 size.toNat
    maxPatternsPerFile := max 1 count.toNat }

/-- The configuration with every default. -/
def standard : Config where
  ruleFilenames := defaultRuleFilenames
  outerFiles := defaultOuterFiles
  cacheSize := 10000
  ignoreCase := .given false
  useDefaults := .given true
  defaultPatterns := []
  maxRuleFileSize := 1048576
  maxPatternsPerFile := 10000

/-- Whether an environment value switches a flag on: `true`, `1`, `yes` or `on`, in any case and
with white space around it. -/
def envFlag (value : String) : Bool :=
  ["true", "1", "yes", "on"].contains (Text.lower (Text.strip value))

/-- The non-empty items of a comma-separated environment value, white space removed. -/
def envList (value : String) : List String :=
  ((value.splitOn ",").map Text.strip).filter (!·.isEmpty)

/-- The settings that the `IGNORE_ENGINE_*` variables give. A cache size that is not an integer
is skipped; the flags are always set, to their defaults when unset; an empty list of rule file
names is skipped, an empty list of outer files is not. -/
def envSettings (env : List (String × String)) : Settings where
  cacheSize := (env.lookup "IGNORE_ENGINE_CACHE_SIZE").bind fun v =>
    (Text.readInteger? v).map .whole
  ignoreCase := some (.given ((env.lookup "IGNORE_ENGINE_IGNORE_CASE").elim false envFlag))
  useDefaults := some (.given ((env.lookup "IGNORE_ENGINE_USE_DEFAULTS").elim true envFlag))
  ruleFilenames := (env.lookup "IGNORE_ENGINE_RULE_FILES").bind fun v =>
    let items := envList v
    if items.isEmpty then none else some (.items items)
  outerFiles := (env.lookup "IGNORE_ENGINE_OUTER_FILES").map (.items ∘ envList)

/-- The configuration from the environment, with explicit settings winning where they are not
nothing. -/
def fromEnv (env : List (String × String)) (s : Settings) : Except ConfigError Config :=
  ofSettings ((envSettings env).override s.withoutNulls)

/-- The default patterns in force: the built-in exclusions when used, then the extra ones. -/
def defaultPatternList (c : Config) : List String :=
  (if c.useDefaults.holds then builtinExclusions else []) ++ c.defaultPatterns

end Config

end IgnoreRules
