import IgnoreRules.Glob.Component

/-!
# Matching a path

A pattern matches a path (matcher.py:120–217), given as its components relative to the rule file's
directory, when the components can be consumed by the pattern's steps in order. A step is a
component glob (one component), the anything step (one component of any kind), or a gap (zero or
more components). An unanchored pattern whose first segment is not `**` starts with a gap; a `**`
segment is a gap, and a trailing `**` is the anything step followed by a gap, so that `dir/**`
matches inside `dir` but not `dir` itself.

The steps are run as a nondeterministic automaton over the components: the state is the set of
step positions reached, closed under skipping gaps. A pattern made of a leading gap and then
component globs only is decided by its last components alone.

- `Glob.ofPattern`: the steps of a pattern.
- `Glob.matchParts`: a path, given as components, against the steps.
- `Pattern.matchParts`, `Pattern.matchPath`: matching with the directory-only rule, for
  components or for a `/`-separated text.
-/

namespace IgnoreRules

/-- One step of a compiled pattern. -/
inductive Step where
  /-- Zero or more components. -/
  | gap
  /-- Exactly one component, whatever it is. -/
  | anyOne
  /-- Exactly one component matching the segment. -/
  | glob (s : Segment)
  deriving DecidableEq, Repr

/-- A compiled pattern: its steps, and whether case is ignored. -/
structure Glob where
  steps : Array Step
  ignoreCase : Bool
  deriving Repr

namespace Glob

/-- The steps of one segment; `last` tells whether it is the pattern's last segment. -/
def stepsOf (last : Bool) : Segment → List Step
  | .globstar => if last then [.anyOne, .gap] else [.gap]
  | s => [.glob s]

/-- The steps of a list of segments, the last one marked. -/
def stepsOfSegments : List Segment → List Step
  | [] => []
  | [s] => stepsOf true s
  | s :: rest => stepsOf false s ++ stepsOfSegments rest

/-- The steps of a pattern: a leading gap unless it is anchored or starts with `**`. -/
def ofPattern (p : Pattern) (ignoreCase : Bool) : Glob :=
  let lead := if !p.anchored && (p.segments.head?.map Segment.isGlobstar) != some true
    then [Step.gap] else []
  ⟨(lead ++ stepsOfSegments p.segments).toArray, ignoreCase⟩

/-- Whether one component passes a step that consumes one. -/
def passes (g : Glob) : Step → String → Except MatchError Bool
  | .gap, _ => pure false
  | .anyOne, _ => pure true
  | .glob s, part => s.matchComponent g.ignoreCase part

/-- Adds to a state the positions reached from it by skipping gaps. -/
def closeFrom (g : Glob) (s : Nat) (fuel : Nat) : List Nat :=
  match fuel with
  | 0 => [s]
  | fuel + 1 => if g.steps[s]? == some .gap then s :: g.closeFrom (s + 1) fuel else [s]

/-- Inserts into a sorted list without repeats. -/
def insertSorted (n : Nat) : List Nat → List Nat
  | [] => [n]
  | m :: ms => if n < m then n :: m :: ms else if n == m then m :: ms else m :: insertSorted n ms

/-- The closure of a set of positions (a sorted list) under skipping gaps. -/
def closure (g : Glob) (states : List Nat) : List Nat :=
  states.foldl (fun acc s => (g.closeFrom s g.steps.size).foldl (fun a t => insertSorted t a) acc) []

/-- The positions reached from `states` by consuming the component `part`: a gap stays, a step
that accepts the component advances, the final position has nowhere to go. Every state is tried. -/
def advance (g : Glob) (part : String) : List Nat → Except MatchError (List Nat)
  | [] => pure []
  | s :: rest => do
    let here ← match g.steps[s]? with
      | none => pure []
      | some .gap => pure [s]
      | some step => do
        if ← g.passes step part then pure [s + 1] else pure []
    let later ← g.advance part rest
    pure (here.foldl (fun a t => insertSorted t a) later)

/-- Runs the automaton over the components, stopping with a refusal as soon as no state is left. -/
def run (g : Glob) : List Nat → List String → Except MatchError Bool
  | states, [] => pure (states.contains g.steps.size)
  | states, part :: parts => do
    let next ← g.advance part states
    if next.isEmpty then pure false else g.run (g.closure next) parts

/-- The component globs after a leading gap, when every other step is a component glob. -/
def suffixSteps (g : Glob) : Option (List Segment) :=
  match g.steps.toList with
  | .gap :: rest@(_ :: _) =>
    if rest.all (· != .gap) then
      rest.mapM fun | .glob s => some s | _ => none
    else none
  | _ => none

/-- Whether each component passes its segment, in order, stopping at the first that fails. -/
def allPass (g : Glob) : List (Segment × String) → Except MatchError Bool
  | [] => pure true
  | (s, part) :: rest => do
    if ← s.matchComponent g.ignoreCase part then g.allPass rest else pure false

/-- Whether a non-empty list of components matches. -/
def matchParts (g : Glob) (parts : List String) : Except MatchError Bool :=
  let fold := fun (t : String) => if g.ignoreCase then Text.lower t else t
  match g.suffixSteps with
  | some segs =>
    if parts.length < segs.length then pure false
    else g.allPass (segs.zip ((parts.drop (parts.length - segs.length)).map fold))
  | none => g.run (g.closure [0]) (parts.map fold)

end Glob

/-- Whether a pattern matches a path given as components, relative to the rule file's
directory. Directory-only patterns match directories only, and the empty path matches nothing. -/
def Pattern.matchParts (p : Pattern) (parts : List String) (isDirectory ignoreCase : Bool) :
    Except MatchError Bool :=
  if p.directoryOnly && !isDirectory then pure false
  else if parts.isEmpty then pure false
  else (Glob.ofPattern p ignoreCase).matchParts parts

/-- The components of a `/`-separated path, empty ones dropped. -/
def pathParts (path : String) : List String :=
  (path.splitOn "/").filter (!·.isEmpty)

/-- Whether a pattern matches a `/`-separated relative path. -/
def Pattern.matchPath (p : Pattern) (path : String) (isDirectory ignoreCase : Bool) :
    Except MatchError Bool :=
  p.matchParts (pathParts path) isDirectory ignoreCase

end IgnoreRules
