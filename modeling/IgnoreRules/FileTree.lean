import IgnoreRules.Path.Posix

/-!
# File trees

The files and directories an engine can see (as manager.py:172–194, inspections.py:107–115 and
file_loader.py:97–141 walk and read them), as a list of absolute paths with what each holds: a
file's bytes or a directory. Every directory that holds something is listed itself, so that a
directory stays when its last entry is removed; the ancestors of the listed paths count as
directories too.

Listings are sorted by name. Version-control directories are shown by listings but never entered.

- `FileTree.find?`, `FileTree.isFile`, `FileTree.isDir`: what a path holds.
- `FileTree.isDirAlong`: whether a path that may hold `..` leads to a directory.
- `FileTree.subdirectories`, `FileTree.files`: the entries of a directory, sorted.
- `FileTree.below`: every entry below a directory that a walk reaches, as relative components.
- `FileTree.write`, `FileTree.makeDirectory`, `FileTree.remove`, `FileTree.rename`: changes.
-/

namespace IgnoreRules

/-- What a path of a file tree holds. -/
inductive Node where
  /-- A file with its bytes. -/
  | file (bytes : List UInt8)
  /-- A directory. -/
  | directory
  deriving DecidableEq, Repr

/-- Absolute paths with what they hold; no path is listed twice. -/
structure FileTree where
  nodes : List (PosixPath × Node)
  deriving DecidableEq, Repr

namespace FileTree

/-- The tree with nothing in it. -/
def empty : FileTree := ⟨[]⟩

/-- The directories a walk never enters. -/
def skippedDirectories : List String := [".git", ".hg", ".svn", ".bzr"]

/-- What a path holds: its own node, or a directory when something lies below it. -/
def find? (t : FileTree) (p : PosixPath) : Option Node :=
  match t.nodes.lookup p with
  | some n => some n
  | none => if t.nodes.any (·.1.isUnder p) then some .directory else none

/-- Whether a path is a file. -/
def isFile (t : FileTree) (p : PosixPath) : Bool :=
  match t.find? p with
  | some (.file _) => true
  | _ => false

/-- Whether a path is a directory. -/
def isDir (t : FileTree) (p : PosixPath) : Bool := t.find? p == some .directory

/-- Whether a path names a directory when its components are followed one by one from its root:
`..` leads from a directory to its parent (the root is its own parent), any other component
must be an entry of the directory reached so far. -/
def isDirAlong (t : FileTree) (p : PosixPath) : Bool :=
  let step := fun (here : Option PosixPath) (c : String) => here.bind fun d =>
    if !t.isDir d then none
    else if c == ".." then some d.parent
    else some (d.child c)
  match p.parts.foldl step (some ⟨p.root, []⟩) with
  | some d => t.isDir d
  | none => false

/-- Sorts texts by code point. -/
def sortNames (names : List String) : List String := names.mergeSort fun a b => decide (a ≤ b)

/-- The names of the entries of a directory, each once, sorted. -/
def entryNames (t : FileTree) (dir : PosixPath) : List String :=
  sortNames (t.nodes.filterMap fun (q, _) =>
    if q.isUnder dir then q.parts[dir.parts.length]? else none).eraseDups

/-- The names of the subdirectories of a directory, sorted. -/
def subdirectories (t : FileTree) (dir : PosixPath) : List String :=
  (t.entryNames dir).filter fun n => t.isDir (dir.child n)

/-- The names of the files of a directory, sorted. -/
def files (t : FileTree) (dir : PosixPath) : List String :=
  (t.entryNames dir).filter fun n => t.isFile (dir.child n)

/-- The greatest depth of a listed path: no walk goes deeper. -/
def height (t : FileTree) : Nat := t.nodes.foldl (fun h (q, _) => max h q.depth) 0

/-- Every entry below a directory that a walk reaches, as components relative to it, with
whether it is a directory: version-control directories are listed, their contents are not. -/
def below (t : FileTree) (dir : PosixPath) : List (List String × Bool) :=
  if !t.isDir dir then []
  else
    let entries := t.nodes.filterMap fun (q, n) =>
      if q.isUnder dir then some (q.parts.drop dir.parts.length, n == .directory) else none
    let reached := entries.filter fun (rel, _) =>
      !(rel.dropLast.any skippedDirectories.contains)
    reached.mergeSort fun a b => !PosixPath.componentsBefore b.1 a.1

/-- Adds the missing ancestors of a path as directories. -/
def withParents (t : FileTree) (p : PosixPath) : FileTree :=
  ⟨t.nodes ++ (p.parents.reverse.filter fun d => (t.nodes.lookup d).isNone).map (·, .directory)⟩

/-- Writes a file, creating its directories. -/
def write (t : FileTree) (p : PosixPath) (bytes : List UInt8) : FileTree :=
  let t := t.withParents p
  ⟨t.nodes.filter (·.1 != p) ++ [(p, .file bytes)]⟩

/-- Creates a directory and its parents; an existing path is left as it is. -/
def makeDirectory (t : FileTree) (p : PosixPath) : FileTree :=
  let t := t.withParents p
  if (t.nodes.lookup p).isSome then t else ⟨t.nodes ++ [(p, .directory)]⟩

/-- Removes a path and everything below it. -/
def remove (t : FileTree) (p : PosixPath) : FileTree :=
  ⟨t.nodes.filter fun (q, _) => q != p && !q.isUnder p⟩

/-- Moves a path and everything below it to another place, replacing what was there. -/
def rename (t : FileTree) (src dest : PosixPath) : FileTree :=
  let moved := t.nodes.filterMap fun (q, n) =>
    if q == src || q.isUnder src then
      some (⟨dest.root, dest.parts ++ q.parts.drop src.parts.length⟩, n)
    else none
  if moved.isEmpty then t
  else
    let rest := (t.remove src).remove dest
    ⟨(rest.withParents dest).nodes ++ moved⟩

end FileTree

end IgnoreRules
