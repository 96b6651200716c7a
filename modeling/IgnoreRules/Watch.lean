import IgnoreRules.Manager.Notify

/-!
# Reacting to file system events

A change handler turns file system events into notifications of a manager
(watchdog_monitor.py:22–156):

- a created, deleted or moved directory has the rule files below it checked (for a move, the
  source and the destination);
- a created, modified, deleted or moved rule file is checked (for a move, each end that is a rule
  file);
- other events are passed over.

A handler applies a change at once or defers it. A deferred change waits until its timer expires
or the handler is flushed; a repeated change counts once, in the place of its last occurrence,
and its timer starts again. Each applied change reports the rule files it checked.

An ignore-aware filter passes on the events of rule files and of paths that are not ignored.

A monitor watches directories of the file tree; it must be started before paths are added, and
a path that is not a directory is not watched.

- `ChangeHandler.dispatch`, `ChangeHandler.expire`, `ChangeHandler.flush`,
  `ChangeHandler.cancelPending`.
- `Manager.forwards`: whether an ignore-aware filter passes an event on.
- `Monitor.start`, `Monitor.addPath`, `Monitor.stop`.
-/

namespace IgnoreRules

/-- The kinds of file system events. -/
inductive EventKind where
  | created
  | modified
  | deleted
  | moved
  deriving DecidableEq, Repr

/-- The kind of event a name stands for. -/
def EventKind.ofName? : String → Option EventKind
  | "created" => some .created
  | "modified" => some .modified
  | "deleted" => some .deleted
  | "moved" => some .moved
  | _ => none

/-- A file system event: its kind, its path, the destination of a move (empty when absent) and
whether the path is a directory. -/
structure FsEvent where
  kind : EventKind
  src : String
  dest : String
  isDirectory : Bool
  deriving DecidableEq, Repr

/-- A change waiting to be applied: a path and whether it is a directory. -/
abbrev Change := String × Bool

/-- Applies changes to a manager at once, or collects them until flushed. -/
structure ChangeHandler where
  deferred : Bool
  /-- The deferred changes, oldest first, each once. -/
  pending : List Change
  deriving DecidableEq, Repr

namespace ChangeHandler

/-- Applies one change and returns the rule files checked. -/
def apply : Change → StateM Manager (List String)
  | (path, true) => Manager.notifyDirectoryChanged path
  | (path, false) => do Manager.notifyFileChanged path; pure [path]

/-- Applies a change at once, or moves it to the end of the pending changes. -/
def schedule (h : ChangeHandler) (c : Change) : StateM Manager (List String × ChangeHandler) := do
  if h.deferred then pure ([], { h with pending := h.pending.filter (· != c) ++ [c] })
  else pure (← apply c, h)

/-- Schedules changes in order, collecting the rule files checked. -/
def scheduleAll (h : ChangeHandler) : List Change → StateM Manager (List String × ChangeHandler)
  | [] => pure ([], h)
  | c :: rest => do
    let (checked, h) ← h.schedule c
    let (more, h) ← scheduleAll h rest
    pure (checked ++ more, h)

/-- The changes an event stands for. -/
def changesOf (m : Manager) (e : FsEvent) : List Change :=
  let ruleFile := fun (p : String) => m.isRuleFile p
  match e.kind with
  | .created | .deleted =>
    if e.isDirectory then [(e.src, true)]
    else if ruleFile e.src then [(e.src, false)] else []
  | .modified => if !e.isDirectory && ruleFile e.src then [(e.src, false)] else []
  | .moved =>
    let otherEnd := !e.dest.isEmpty && e.dest != e.src
    if e.isDirectory then
      [(e.src, true)] ++ (if otherEnd then [(e.dest, true)] else [])
    else
      (if ruleFile e.src then [(e.src, false)] else []) ++
        (if otherEnd && ruleFile e.dest then [(e.dest, false)] else [])

/-- Handles an event; returns the rule files checked now. -/
def dispatch (h : ChangeHandler) (e : FsEvent) : StateM Manager (List String × ChangeHandler) := do
  h.scheduleAll (changesOf (← get) e)

/-- The timer of a change expires: a pending change leaves the pending ones and is applied. A
change that is not pending has no timer running. -/
def expire (h : ChangeHandler) (c : Change) : StateM Manager (List String × ChangeHandler) := do
  if c ∈ h.pending then pure (← apply c, { h with pending := h.pending.erase c })
  else pure ([], h)

/-- Applies every pending change, oldest first. -/
def flush (h : ChangeHandler) : StateM Manager (List String × ChangeHandler) := do
  let checked ← h.pending.mapM apply
  pure (checked.flatten, { h with pending := [] })

/-- Drops every pending change. -/
def cancelPending (h : ChangeHandler) : ChangeHandler := { h with pending := [] }

end ChangeHandler

/-- Whether an ignore-aware filter passes an event on: events of rule files always pass, others
when their path is not ignored. -/
def Manager.forwards (e : FsEvent) : Engine Bool := do
  if (← get).isRuleFile e.src then pure true
  else pure !(← Manager.shouldIgnore e.src (some e.isDirectory))

/-- Watches directories of a file tree. -/
structure Monitor where
  running : Bool
  watched : List PosixPath
  deriving DecidableEq, Repr

namespace Monitor

/-- A monitor that has not started. -/
def idle : Monitor := ⟨false, []⟩

/-- The message of adding a path to a monitor that has not started. -/
def notRunning : String := "Monitor not running"

/-- Watches a path, kept as written, if it leads to a directory and is not yet watched. -/
def watch (disk : FileTree) (mon : Monitor) (p : PosixPath) : Monitor :=
  if mon.watched.contains p || !disk.isDirAlong p then mon
  else { mon with watched := mon.watched ++ [p] }

/-- Starts watching the given directories; a running monitor stays as it is. -/
def start (mon : Monitor) (disk : FileTree) (paths : List PosixPath) : Monitor :=
  if mon.running then mon else paths.foldl (watch disk) ⟨true, []⟩

/-- Adds a directory to a running monitor. -/
def addPath (mon : Monitor) (disk : FileTree) (p : PosixPath) : Except String Monitor :=
  if mon.running then .ok (watch disk mon p) else .error notRunning

/-- Stops watching. -/
def stop (_ : Monitor) : Monitor := idle

/-- The watched directories, sorted. -/
def watchedPaths (mon : Monitor) : List String :=
  FileTree.sortNames (mon.watched.map (·.toString))

end Monitor

end IgnoreRules
