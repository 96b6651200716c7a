import IgnoreRules.Manager.Query

/-!
# Keeping a manager current

A changed rule file is rebuilt alone and published (manager.py:228–329, 374–376 and 406–427): the
registry gets the new rule set and the cache drops exactly the verdicts that depended on the file.
Contents equal to those loaded change nothing, not even the version.

- `Manager.onRuleFileChanged`: new contents for a rule file.
- `Manager.onRuleFileRemoved`: a rule file is gone.
- `Manager.notifyFileChanged`: a rule file may have changed; the source is asked for its state.
- `Manager.notifyDirectoryChanged`: a directory was created, deleted or moved; the rule files
  loaded from below it and those the source has below it are checked.
- `Manager.changeSource`: a change of the source, passed on while the manager listens.
-/

namespace IgnoreRules

namespace Manager

/-- Registers a rule set and drops the verdicts that depended on its file. -/
def publish (rs : RuleSet) : StateM Manager Unit :=
  modify fun m => { m with registry := (m.registry.register rs).2, cache := (m.cache.invalidate rs.id).2 }

/-- Takes new contents for a rule file and returns the rule set now in effect for it. -/
def onRuleFileChanged (path contents : String) : StateM Manager RuleSet := do
  let m ← get
  let id := (m.absolute path).toString
  match m.registry.get? id with
  | some current =>
    if current.digest == contentDigest contents then pure current else rebuild id
  | none => rebuild id
where
  rebuild (id : String) : StateM Manager RuleSet := do
    let rs ← parseRuleFile id contents
    publish rs
    pure rs

/-- Drops the rule set of a rule file and its verdicts; tells whether there was one. -/
def onRuleFileRemoved (path : String) : StateM Manager Bool := do
  let m ← get
  let id := (m.absolute path).toString
  let (removed, registry) := m.registry.unregister id
  set { m with registry, cache := (m.cache.invalidate id).2 }
  pure removed.isSome

/-- Brings the rule set of a rule file in line with the source: a file that is gone is removed,
one that cannot be read contributes no pattern, and paths that are not rule files are
passed over. -/
def notifyFileChanged (path : String) : StateM Manager Unit := do
  let m ← get
  let id := (m.absolute path).toString
  if m.isRuleFile id then
    if !m.source.present m.disk id then
      discard (onRuleFileRemoved id)
    else
      match m.source.read m.disk id with
      | .error reason => publish (← unreadableRuleSet id reason)
      | .ok contents => discard (onRuleFileChanged id contents)

/-- Checks the rule files loaded from below a directory and those the source has below it (when
the directory lies in the workspace), each once; returns their ids in the order checked. -/
def notifyDirectoryChanged (dir : String) : StateM Manager (List String) := do
  let m ← get
  let base := m.absolute dir
  let loaded := (m.registry.all.filter fun rs =>
    rs.origin != Origin.defaults && (PosixPath.ofString rs.id).parents.contains base).map (·.id)
  let present :=
    if base == m.root || base.isUnder m.root then
      (m.source.discover m.disk (some base.toString)).map fun p => (PosixPath.normalize p).toString
    else []
  let ids := (loaded ++ present).eraseDups
  ids.forM notifyFileChanged
  pure ids

/-- Reloads every rule file from the source. -/
def reloadAll : StateM Manager Unit := loadRuleFiles

/-- Changes the source and, while the manager listens, tells it about the path. -/
def changeSource (change : RuleFileSource → RuleFileSource) (path : String) : StateM Manager Unit := do
  modify fun m => { m with source := change m.source }
  if (← get).listening then notifyFileChanged path

/-- Stops listening to the source. -/
def close : StateM Manager Unit := modify fun m => { m with listening := false }

end Manager

end IgnoreRules
