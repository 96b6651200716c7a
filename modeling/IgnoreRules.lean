import IgnoreRules.Text.RangeTable
import IgnoreRules.Text.Alphabetic
import IgnoreRules.Text.Printable
import IgnoreRules.Text.Cased
import IgnoreRules.Text.CaseMap
import IgnoreRules.Text.Lines
import IgnoreRules.Text.Integer
import IgnoreRules.Text.Utf8
import IgnoreRules.Pattern.Basic
import IgnoreRules.Pattern.Parse
import IgnoreRules.Glob.Component
import IgnoreRules.Glob.Path
import IgnoreRules.Digest.Sha256
import IgnoreRules.Decimal.Shortest
import IgnoreRules.Path.Posix
import IgnoreRules.FileTree
import IgnoreRules.RuleSet
import IgnoreRules.Inspect
import IgnoreRules.Config
import IgnoreRules.Cache
import IgnoreRules.DirIndex
import IgnoreRules.Registry
import IgnoreRules.Resolve
import IgnoreRules.Source
import IgnoreRules.Manager.Basic
import IgnoreRules.Manager.Query
import IgnoreRules.Manager.Notify
import IgnoreRules.Manager.Report
import IgnoreRules.Watch
import IgnoreRules.Cli.Args
import IgnoreRules.Cli.Run
import IgnoreRules.Main
import IgnoreRules.Proofs.Ancestry
import IgnoreRules.Proofs.Registry
import IgnoreRules.Proofs.Snapshot
import IgnoreRules.Proofs.Notify
import IgnoreRules.Proofs.Debounce
import IgnoreRules.Proofs.DependencyIndex
import IgnoreRules.Proofs.Precedence
import IgnoreRules.Proofs.Component
import IgnoreRules.Proofs.PathMatch
import IgnoreRules.Proofs.Caching
import IgnoreRules.Proofs.MemorySource
import IgnoreRules.Proofs.Reload
import IgnoreRules.Proofs.Incremental
import IgnoreRules.Proofs.Recency
import IgnoreRules.Proofs.Shortcuts
import IgnoreRules.Proofs.ExactIndex
import IgnoreRules.Proofs.Unchanged
import IgnoreRules.Proofs.CaseFolding
import IgnoreRules.Proofs.Spelling
import IgnoreRules.Proofs.Unreachable
import IgnoreRules.Proofs.Walk
import IgnoreRules.Proofs.WellFormed
import IgnoreRules.Proofs.Lifecycle
