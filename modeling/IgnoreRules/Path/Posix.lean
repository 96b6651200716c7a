/-!
# POSIX paths

Paths are texts with `/` as the separator (resolver.py:18–20 and manager.py:386–396 read them). A
path has a root (none for a relative path, `/`, or `//`, which POSIX allows to differ from `/`;
three or more leading slashes mean `/`) and a list of components. Reading a path drops empty and `.`
components; normalising it also lets each `..` cancel the component before it, and drops a `..`
directly under a root.

- `PosixPath.ofString`: read a path, keeping `..` components.
- `PosixPath.normalize`: read and normalise a path.
- `PosixPath.parents`: the proper ancestors, nearest first.
- `PosixPath.relativeTo`: the components below an ancestor.
- `PosixPath.depth`: the number of components, the root counting as one.
-/

namespace IgnoreRules

/-- A path as a root and components; no component is empty or `.`. -/
structure PosixPath where
  /-- `""` for a relative path, otherwise `/` or `//`. -/
  root : String
  parts : List String
  deriving DecidableEq, Repr, Inhabited

namespace PosixPath

/-- The root that a text's leading slashes give: exactly two slashes keep `//`. -/
def rootOf (s : String) : String :=
  match s.toList with
  | '/' :: '/' :: '/' :: _ => "/"
  | '/' :: '/' :: _ => "//"
  | '/' :: _ => "/"
  | _ => ""

/-- The pieces of a text between its slashes, empty pieces included. -/
def pieces (s : String) : List String := (s.toList.splitOn '/').map String.ofList

/-- Reads a path, dropping empty and `.` components. -/
def ofString (s : String) : PosixPath :=
  ⟨rootOf s, (pieces s).filter fun c => !c.isEmpty && c != "."⟩

/-- Applies the `..` components: each cancels the component before it; one with nothing before
it stays in a relative path and vanishes under a root. -/
def resolveDots (absolute : Bool) (parts : List String) : List String :=
  (parts.foldl (fun (acc : List String) c =>
    if c != ".." then c :: acc
    else match acc with
      | [] => if absolute then [] else [c]
      | d :: rest => if d == ".." then c :: acc else rest) []).reverse

/-- Applies the `..` components of a path. -/
def collapse (p : PosixPath) : PosixPath := ⟨p.root, resolveDots (p.root != "") p.parts⟩

/-- Reads and normalises a path. -/
def normalize (s : String) : PosixPath := (ofString s).collapse

/-- The text of a path; the empty relative path is `.`. -/
def toString (p : PosixPath) : String :=
  let body := "/".intercalate p.parts
  if p.root.isEmpty && body.isEmpty then "." else p.root ++ body

instance : ToString PosixPath := ⟨PosixPath.toString⟩

/-- Whether the path has a root. -/
def isAbsolute (p : PosixPath) : Bool := !p.root.isEmpty

/-- The number of components, with the root counted as one. -/
def depth (p : PosixPath) : Nat := (if p.root.isEmpty then 0 else 1) + p.parts.length

/-- The path below `p` named by `rel`; a path with a root replaces `p`. -/
def join (p rel : PosixPath) : PosixPath :=
  if rel.isAbsolute then rel else ⟨p.root, p.parts ++ rel.parts⟩

/-- The path of the entry `name` of the directory `p`. -/
def child (p : PosixPath) (name : String) : PosixPath := ⟨p.root, p.parts ++ [name]⟩

/-- A path text read from the directory `base` and normalised; a path with a root stands for
itself. -/
def resolveFrom (base : PosixPath) (s : String) : PosixPath := (base.join (ofString s)).collapse

/-- The proper ancestors, nearest first; the last is the root (or `.` for a relative path). -/
def parents (p : PosixPath) : List PosixPath :=
  ((List.range p.parts.length).reverse.map fun n => ⟨p.root, p.parts.take n⟩)

/-- The parent, or the path itself when it has no components. -/
def parent (p : PosixPath) : PosixPath := ⟨p.root, p.parts.dropLast⟩

/-- The last component, or the empty text. -/
def name (p : PosixPath) : String := p.parts.getLast?.getD ""

/-- The components below `base`, when `base` is the path or one of its ancestors. -/
def relativeTo (p base : PosixPath) : Option (List String) :=
  if p.root == base.root && base.parts.isPrefixOf p.parts then
    some (p.parts.drop base.parts.length)
  else none

/-- Orders component lists by their first differing component, a proper prefix first. -/
def componentsBefore : List String → List String → Bool
  | [], [] => false
  | [], _ :: _ => true
  | _ :: _, [] => false
  | a :: as, b :: bs => if a == b then componentsBefore as bs else decide (a < b)

/-- Whether `base` is a proper ancestor of `p`. -/
def isUnder (p base : PosixPath) : Bool :=
  p.root == base.root && base.parts.length < p.parts.length && base.parts.isPrefixOf p.parts

end PosixPath

/-- The last component of a path text: what follows its last `/`. -/
def baseName (s : String) : String := (PosixPath.pieces s).getLast?.getD ""

end IgnoreRules
