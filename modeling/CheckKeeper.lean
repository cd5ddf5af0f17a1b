import CheckKeeper.Text.WordChar
import CheckKeeper.Text.Quoted
import CheckKeeper.Text.Digit
import CheckKeeper.Text.Case
import CheckKeeper.Text.Blank
import CheckKeeper.Number.Literal
import CheckKeeper.Calendar.Iso
import CheckKeeper.Value.Basic
import CheckKeeper.Value.Display
import CheckKeeper.Value.Order
import CheckKeeper.Failure
import CheckKeeper.Json.Reader
import CheckKeeper.Json.Writer
import CheckKeeper.Digest.Sha256
import CheckKeeper.Value.Convert
import CheckKeeper.Value.Excess
import CheckKeeper.Check.Definition
import CheckKeeper.Change.Batch
import CheckKeeper.Job.Basic
import CheckKeeper.Outcome
import CheckKeeper.Result
import CheckKeeper.Sql.Filter
import CheckKeeper.Sql.Guard
import CheckKeeper.Compile.Check
import CheckKeeper.Preview.Clock
import CheckKeeper.Preview.Evaluate
import CheckKeeper.Program.Basic
import CheckKeeper.Text.Duration
import CheckKeeper.Program.Service
import CheckKeeper.Sync.Reconciler
import CheckKeeper.Memory.Feed
import CheckKeeper.Memory.Tables
import CheckKeeper.Rehearsal.Run
import CheckKeeper.Config.Basic
import CheckKeeper.Yaml.Cursor
import CheckKeeper.Yaml.Token
import CheckKeeper.Yaml.Node
import CheckKeeper.Yaml.Writer
import CheckKeeper.Config.EnvFile
import CheckKeeper.Warehouse.Catalog
import CheckKeeper.Warehouse.Script
import CheckKeeper.Config.Load
import CheckKeeper.Cli.Arguments
import CheckKeeper.Cli.Commands
import CheckKeeper.Cli.Run
import CheckKeeper.Rehearsal.Desk
import CheckKeeper.Log.Template
import CheckKeeper.Calendar.Instant
import CheckKeeper.Main
import CheckKeeper.Proofs.Ends
import CheckKeeper.Proofs.Feed
import CheckKeeper.Proofs.Keyed
import CheckKeeper.Proofs.Tables
import CheckKeeper.Proofs.Course
import CheckKeeper.Proofs.Mishap
import CheckKeeper.Proofs.Synchronizer
import CheckKeeper.Proofs.Collapse
import CheckKeeper.Proofs.Pass
import CheckKeeper.Proofs.History
import CheckKeeper.Proofs.Probe
import CheckKeeper.Proofs.Staleness
import CheckKeeper.Proofs.Steady
import CheckKeeper.Proofs.Convergence
import CheckKeeper.Proofs.Lexing
import CheckKeeper.Proofs.Trimming
import CheckKeeper.Proofs.Wording
import CheckKeeper.Proofs.Judgement
import CheckKeeper.Proofs.Embedding
import CheckKeeper.Proofs.Calls
import CheckKeeper.Proofs.Remit
import CheckKeeper.Proofs.Commitment
import CheckKeeper.Proofs.Served
import CheckKeeper.Proofs.Accounting
import CheckKeeper.Proofs.Share
import CheckKeeper.Proofs.Independence
import CheckKeeper.Proofs.Backing
import CheckKeeper.Proofs.Binding
import CheckKeeper.Proofs.Drift
import CheckKeeper.Proofs.JobNames
import CheckKeeper.Proofs.Statement
import CheckKeeper.Proofs.SingleFlight
import CheckKeeper.Proofs.Stored
import CheckKeeper.Proofs.Identifiers
import CheckKeeper.Proofs.Closing
import CheckKeeper.Proofs.Enclosure
import CheckKeeper.Proofs.Replacement
import CheckKeeper.Proofs.Effect
import CheckKeeper.Proofs.NoGap
import CheckKeeper.Proofs.Delivery
import CheckKeeper.Proofs.Pieces
import CheckKeeper.Proofs.Misconfigured
import CheckKeeper.Proofs.Flaws
import CheckKeeper.Proofs.Precedence
import CheckKeeper.Proofs.Placeholders
import CheckKeeper.Proofs.Agreement
import CheckKeeper.Proofs.Conjunction
import CheckKeeper.Proofs.Repeats
import CheckKeeper.Proofs.Numerals
import CheckKeeper.Proofs.Bits
import CheckKeeper.Proofs.JsonText
import CheckKeeper.Proofs.MomentText
import CheckKeeper.Proofs.Restored
import CheckKeeper.Proofs.JobRecords
import CheckKeeper.Proofs.Recency
import CheckKeeper.Proofs.Backlog
import CheckKeeper.Proofs.ChangeLog
import CheckKeeper.Proofs.Provenance
import CheckKeeper.Proofs.Exchanges
import CheckKeeper.Proofs.Polling
import CheckKeeper.Proofs.LogLines
import CheckKeeper.Proofs.SubBatches
import CheckKeeper.Proofs.Configured
import CheckKeeper.Proofs.Escapes
import CheckKeeper.Proofs.Entries
import CheckKeeper.Proofs.Ranking
import CheckKeeper.Proofs.Ranking
