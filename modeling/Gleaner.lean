import Gleaner.Advisor.Basic
import Gleaner.Advisor.Prompt
import Gleaner.Bindings.Basic
import Gleaner.Bindings.Coerce
import Gleaner.Bindings.Complete
import Gleaner.Bindings.Examples
import Gleaner.Bindings.Match
import Gleaner.Bindings.Merge
import Gleaner.Bindings.StateCondition
import Gleaner.Bindings.Validate
import Gleaner.Bindings.Wire
import Gleaner.Browser.Basic
import Gleaner.Browser.Engine
import Gleaner.Browser.Page
import Gleaner.Cli.Arguments
import Gleaner.Cli.Desk
import Gleaner.Cli.Invocation
import Gleaner.Cli.Markup
import Gleaner.Cli.Perform
import Gleaner.Cli.Terminal
import Gleaner.Decimal.Binary
import Gleaner.Decimal.Layout
import Gleaner.Decimal.Number
import Gleaner.Decimal.Shortest
import Gleaner.Digest.Sha1
import Gleaner.Entries
import Gleaner.Fault
import Gleaner.Files
import Gleaner.Harvest
import Gleaner.Job
import Gleaner.Json.Embedded
import Gleaner.Json.Merge
import Gleaner.Json.Pairs
import Gleaner.Json.Parts
import Gleaner.Json.Reader
import Gleaner.Json.Same
import Gleaner.Json.Value
import Gleaner.Json.Writer
import Gleaner.Logging
import Gleaner.Main
import Gleaner.Model
import Gleaner.Page
import Gleaner.Proofs.Advisor.Fix
import Gleaner.Proofs.Bindings.Amend
import Gleaner.Proofs.Bindings.Coercion
import Gleaner.Proofs.Bindings.Condition
import Gleaner.Proofs.Bindings.Record
import Gleaner.Proofs.Decimal.Parts
import Gleaner.Proofs.Decimal.Rounding
import Gleaner.Proofs.Decimal.Shortest
import Gleaner.Proofs.Entries
import Gleaner.Proofs.Harvest.Attempts
import Gleaner.Proofs.Harvest.Beside
import Gleaner.Proofs.Harvest.Caught
import Gleaner.Proofs.Harvest.Client
import Gleaner.Proofs.Harvest.Effect
import Gleaner.Proofs.Harvest.Faults
import Gleaner.Proofs.Json.Balance
import Gleaner.Proofs.Json.Embedded
import Gleaner.Proofs.Json.Figures
import Gleaner.Proofs.Json.Grammar
import Gleaner.Proofs.Json.Indented
import Gleaner.Proofs.Json.Keyed
import Gleaner.Proofs.Json.Texts
import Gleaner.Proofs.Json.Words
import Gleaner.Proofs.Json.Written
import Gleaner.Proofs.Recipe.Flaws
import Gleaner.Proofs.Recipe.Meaning
import Gleaner.Proofs.Recipe.Sound
import Gleaner.Proofs.Recipe.Tidy
import Gleaner.Proofs.Recipe.Written
import Gleaner.Proofs.Rehearsal.Calm
import Gleaner.Proofs.Rehearsal.Complete
import Gleaner.Proofs.Rehearsal.Listing
import Gleaner.Proofs.Rehearsal.Passes
import Gleaner.Proofs.Rehearsal.Taking
import Gleaner.Proofs.Run.Beside
import Gleaner.Proofs.Run.Chronicle
import Gleaner.Proofs.Run.Deed
import Gleaner.Proofs.Run.Details
import Gleaner.Proofs.Run.Flow
import Gleaner.Proofs.Run.Growth
import Gleaner.Proofs.Run.Journey
import Gleaner.Proofs.Run.Keeping
import Gleaner.Proofs.Run.Ledger
import Gleaner.Proofs.Run.Looking
import Gleaner.Proofs.Run.Mending
import Gleaner.Proofs.Run.Pairing
import Gleaner.Proofs.Run.Polling
import Gleaner.Proofs.Run.Repairs
import Gleaner.Proofs.Run.Saved
import Gleaner.Proofs.Run.Stop
import Gleaner.Proofs.Run.Work
import Gleaner.Proofs.Schema.Reading
import Gleaner.Proofs.Store.Distinct
import Gleaner.Proofs.Store.Operations
import Gleaner.Proofs.Store.Sharing
import Gleaner.Proofs.Store.Text
import Gleaner.Proofs.Text.Trim
import Gleaner.Provider.Basic
import Gleaner.Provider.Body
import Gleaner.Provider.Http
import Gleaner.Recipe.Builder
import Gleaner.Recipe.Command
import Gleaner.Recipe.Reader
import Gleaner.Recipe.Template
import Gleaner.Recipe.Tidy
import Gleaner.Recipe.Wire
import Gleaner.Rehearsal.Desk
import Gleaner.Rehearsal.Engine
import Gleaner.Rehearsal.Scenario
import Gleaner.Rehearsal.Script
import Gleaner.Rehearsal.Stage
import Gleaner.Rehearsal.Summary
import Gleaner.Rehearsal.Trace
import Gleaner.Rehearsal.World
import Gleaner.Retry
import Gleaner.Run.Basic
import Gleaner.Run.Command
import Gleaner.Run.Details
import Gleaner.Run.Execute
import Gleaner.Run.Flow
import Gleaner.Run.Items
import Gleaner.Run.Look
import Gleaner.Run.Outcome
import Gleaner.Run.Repair
import Gleaner.Run.Session
import Gleaner.Run.Wait
import Gleaner.Schema.Numeral
import Gleaner.Schema.Problem
import Gleaner.Schema.Reading
import Gleaner.Settings.Basic
import Gleaner.Settings.Environment
import Gleaner.Settings.EnvironmentFile
import Gleaner.Settings.Load
import Gleaner.Settings.Wire
import Gleaner.Store
import Gleaner.Text.Alphanumeric
import Gleaner.Text.Blank
import Gleaner.Text.Digit
import Gleaner.Text.Literal
import Gleaner.Text.LowerCase
import Gleaner.Text.Pattern.Basic
import Gleaner.Text.Pattern.Reader
import Gleaner.Text.Printable
import Gleaner.Url.Address
import Gleaner.Url.Host
import Gleaner.Yaml.Cursor
import Gleaner.Yaml.Reader
import Gleaner.Yaml.Scalar
import Gleaner.Yaml.Value
import Gleaner.Proofs.Bindings.Trimmed
import Gleaner.Proofs.Store.Kept
import Gleaner.Proofs.Advisor.Grounded
import Gleaner.Proofs.Advisor.Upkeep
import Gleaner.Proofs.Harvest.Asking
import Gleaner.Proofs.Harvest.Reuse
import Gleaner.Proofs.Run.Deadline
import Gleaner.Proofs.Bindings.Merging
import Gleaner.Proofs.Settings.Precedence
import Gleaner.Proofs.Harvest.Calls
import Gleaner.Proofs.Bindings.Settled
import Gleaner.Proofs.Run.Staleness
import Gleaner.Proofs.Run.Rounds
import Gleaner.Proofs.Run.Turns
import Gleaner.Proofs.Run.Extracting
import Gleaner.Proofs.Bindings.Replay
import Gleaner.Proofs.Bindings.Report
import Gleaner.Proofs.Bindings.Formed
import Gleaner.Proofs.Advisor.Completion
import Gleaner.Proofs.Bindings.Hollow
import Gleaner.Proofs.Store.Damage
import Gleaner.Proofs.Advisor.Repeats
import Gleaner.Proofs.Recipe.Settled
import Gleaner.Proofs.Run.Waiting
import Gleaner.Proofs.Retry
import Gleaner.Proofs.Provider.Translation
import Gleaner.Proofs.Job.Structuring
import Gleaner.Proofs.Run.Walking
import Gleaner.Proofs.Run.Influence
