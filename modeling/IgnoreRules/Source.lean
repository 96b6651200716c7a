import IgnoreRules.FileTree
import IgnoreRules.Text.Utf8

/-!
# Rule file sources

Where the contents of rule files come from (file_loader.py:23–194). A source finds rule files, tells
whether one exists, and reads it; a read may fail with a reason, which becomes the error of an empty
rule set.

- A memory source holds contents by path, exactly as the paths were written, and a separate list
  of paths whose reads fail with a given reason. Setting, removing or spoiling a path changes it.
- A tree source reads the files of a file tree below a root: a file over the size limit, or one
  that is not UTF-8, cannot be read, and line ends are unified.

A rule file is recognised by its name alone. Discovery lists the rule files below a directory
(the root by default), shallowest first.

- `RuleFileSource.discover`, `RuleFileSource.present`, `RuleFileSource.read`.
- `RuleFileSource.set`, `RuleFileSource.remove`, `RuleFileSource.setUnreadable`: changes to a
  memory source.
-/

namespace IgnoreRules

/-- Where a source keeps rule files. -/
inductive Store where
  /-- Contents by path, and the paths whose reads fail with their reasons. -/
  | memory (files : List (String × String)) (unreadable : List (String × String))
  /-- The files of the file tree below a root; larger files than the limit cannot be read. -/
  | tree (root : PosixPath) (maxFileSize : Nat)
  deriving DecidableEq, Repr

/-- A provider of rule file contents. -/
structure RuleFileSource where
  ruleFilenames : List String
  store : Store
  deriving DecidableEq, Repr

namespace RuleFileSource

/-- Whether a path names a rule file: its last component is a rule file name. -/
def isRuleFile (s : RuleFileSource) (path : String) : Bool := s.ruleFilenames.contains (baseName path)

/-- Replaces or appends the entry of a key. -/
def assign (entries : List (String × String)) (key value : String) : List (String × String) :=
  if entries.any (·.1 == key) then entries.map fun (k, v) => if k == key then (k, value) else (k, v)
  else entries ++ [(key, value)]

/-- Drops the entry of a key. -/
def drop (entries : List (String × String)) (key : String) : List (String × String) :=
  entries.filter (·.1 != key)

/-- The rule files of a tree below a directory, shallowest first; among equally deep ones, by
directory and then in the order of the rule file names. Version-control directories below the
start are not searched. -/
def treeRuleFiles (s : RuleFileSource) (disk : FileTree) (start : PosixPath) : List String :=
  let found := disk.nodes.filterMap fun (q, n) =>
    match n with
    | .file _ =>
      let rel := q.parts.drop start.parts.length
      if q.isUnder start && s.ruleFilenames.contains q.name &&
          !(rel.dropLast.any FileTree.skippedDirectories.contains) then
        some (q, s.ruleFilenames.idxOf q.name)
      else none
    | .directory => none
  let ordered := found.mergeSort fun (a, i) (b, j) =>
    a.depth < b.depth || (a.depth == b.depth &&
      (PosixPath.componentsBefore a.parts.dropLast b.parts.dropLast ||
        (a.parts.dropLast == b.parts.dropLast && i ≤ j)))
  ordered.map (·.1.toString)

/-- The rule files of the source, below `start` when given, shallowest first. -/
def discover (s : RuleFileSource) (disk : FileTree) (start : Option String) : List String :=
  match s.store with
  | .memory files unreadable =>
    let paths := (files.map (·.1)).filter s.isRuleFile ++
      ((unreadable.map (·.1)).filter fun p => s.isRuleFile p && !(files.any (·.1 == p)))
    let paths := match start with
      | some dir => paths.filter fun p => (PosixPath.ofString p).parents.contains (PosixPath.ofString dir)
      | none => paths
    paths.mergeSort fun a b =>
      let da := (PosixPath.ofString a).depth
      let db := (PosixPath.ofString b).depth
      da < db || (da == db && decide (a ≤ b))
  | .tree root _ =>
    let dir := (start.map PosixPath.normalize).getD root
    if disk.isDir dir then s.treeRuleFiles disk dir else []

/-- Whether a rule file exists. -/
def present (s : RuleFileSource) (disk : FileTree) (path : String) : Bool :=
  match s.store with
  | .memory files unreadable => files.any (·.1 == path) || unreadable.any (·.1 == path)
  | .tree _ _ => disk.isFile (PosixPath.normalize path)

/-- The contents of a rule file, or why it cannot be read. -/
def read (s : RuleFileSource) (disk : FileTree) (path : String) : Except String String :=
  match s.store with
  | .memory files unreadable =>
    match unreadable.lookup path, files.lookup path with
    | some reason, _ => .error reason
    | none, some contents => .ok contents
    | none, none => .error "file not found"
  | .tree _ maxFileSize =>
    match disk.find? (PosixPath.normalize path) with
    | none => .error "file not found"
    | some .directory => .error ("error reading file: [Errno 21] Is a directory: " ++ Text.quote path)
    | some (.file bytes) =>
      if maxFileSize < bytes.length then
        .error ("file too large: " ++ toString bytes.length ++ " bytes (max: " ++
          toString maxFileSize ++ ")")
      else
        match Utf8.readText bytes with
        | .ok text => .ok text
        | .error e => .error ("not valid UTF-8: " ++ e.message)

/-- Creates or replaces a rule file of a memory source; it becomes readable. -/
def set (s : RuleFileSource) (path contents : String) : RuleFileSource :=
  match s.store with
  | .memory files unreadable => { s with store := .memory (assign files path contents) (drop unreadable path) }
  | .tree _ _ => s

/-- Deletes a rule file of a memory source. -/
def remove (s : RuleFileSource) (path : String) : RuleFileSource :=
  match s.store with
  | .memory files unreadable => { s with store := .memory (drop files path) (drop unreadable path) }
  | .tree _ _ => s

/-- Makes reads of a path of a memory source fail with a reason. -/
def setUnreadable (s : RuleFileSource) (path reason : String) : RuleFileSource :=
  match s.store with
  | .memory files unreadable => { s with store := .memory (drop files path) (assign unreadable path reason) }
  | .tree _ _ => s

end RuleFileSource

end IgnoreRules
