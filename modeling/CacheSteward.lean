import CacheSteward.Amount
import CacheSteward.Budget
import CacheSteward.Calendar
import CacheSteward.Catalogue
import CacheSteward.Command
import CacheSteward.Command.Grid
import CacheSteward.Command.Line
import CacheSteward.Command.Outcome
import CacheSteward.Command.Plan
import CacheSteward.Command.Usage
import CacheSteward.Command.Validate
import CacheSteward.Decimal.Expansion
import CacheSteward.Decimal.Layout
import CacheSteward.Decimal.Nearest
import CacheSteward.Decimal.Reading
import CacheSteward.Decimal.Shortest
import CacheSteward.Document
import CacheSteward.Document.Cursor
import CacheSteward.Document.Lexer
import CacheSteward.Document.Meaning
import CacheSteward.Document.Node
import CacheSteward.Document.Problem
import CacheSteward.Document.Property
import CacheSteward.Document.Scalar
import CacheSteward.Document.Tag
import CacheSteward.Document.Token
import CacheSteward.Fault
import CacheSteward.Fault.Disposition
import CacheSteward.InFlight
import CacheSteward.Instance.Billing
import CacheSteward.Instance.Detail
import CacheSteward.Instance.Handle
import CacheSteward.Instance.Kind
import CacheSteward.Instance.Subnet
import CacheSteward.Instance.Topology
import CacheSteward.Journal
import CacheSteward.Journal.Entry
import CacheSteward.Journal.Setup
import CacheSteward.Journal.Template
import CacheSteward.Main
import CacheSteward.Pending
import CacheSteward.Plan
import CacheSteward.Plan.Step
import CacheSteward.Proofs.Attempts
import CacheSteward.Proofs.Run
import CacheSteward.Record.Checked
import CacheSteward.Record.Field
import CacheSteward.Record.Violation
import CacheSteward.Rehearsal.Run
import CacheSteward.Rehearsal.Sample
import CacheSteward.Rehearsal.Script
import CacheSteward.Rehearsal.Solo
import CacheSteward.Rehearsal.Stage
import CacheSteward.Remote.Attempt
import CacheSteward.Remote.Call
import CacheSteward.Remote.Wait
import CacheSteward.Service
import CacheSteward.Session
import CacheSteward.Settings
import CacheSteward.Spec
import CacheSteward.Spec.Name
import CacheSteward.Text.Capital
import CacheSteward.Text.Digit
import CacheSteward.Text.Printable
import CacheSteward.Text.Quoted
import CacheSteward.Text.Similar
import CacheSteward.Timescale
import CacheSteward.Timescale.Exact
import CacheSteward.Value
import CacheSteward.Value.Json
import CacheSteward.Value.Shown
import CacheSteward.Proofs.Polls
import CacheSteward.Proofs.Steps
import CacheSteward.Proofs.CallOrder
import CacheSteward.Proofs.Decoding
import CacheSteward.Proofs.Agreement
import CacheSteward.Proofs.Keeping
import CacheSteward.Proofs.Lifecycle
import CacheSteward.Proofs.Conduct
import CacheSteward.Proofs.Exclusion
import CacheSteward.Proofs.Failures
import CacheSteward.Proofs.Playback
import CacheSteward.Proofs.Waiting
import CacheSteward.Proofs.Trying
import CacheSteward.Proofs.Convergence
import CacheSteward.Proofs.Reports
import CacheSteward.Proofs.Endings
import CacheSteward.Proofs.Pacing
import CacheSteward.Proofs.SharedBudget
import CacheSteward.Proofs.Blame
import CacheSteward.Proofs.Release
import CacheSteward.Proofs.Creation
import CacheSteward.Proofs.Entries
import CacheSteward.Proofs.Environment
import CacheSteward.Proofs.Requested
import CacheSteward.Proofs.Specification
import CacheSteward.Proofs.Sufficiency
import CacheSteward.Proofs.Upholding
import CacheSteward.Proofs.Ledger
import CacheSteward.Proofs.Issuing
import CacheSteward.Proofs.Tokens
import CacheSteward.Proofs.Lawful
import CacheSteward.Proofs.Naming
import CacheSteward.Proofs.Malformed
import CacheSteward.Proofs.Boundaries
import CacheSteward.Proofs.Absence
import CacheSteward.Proofs.Recasting
import CacheSteward.Proofs.WrittenBack
import CacheSteward.Proofs.Closings
import CacheSteward.Proofs.Prompt
import CacheSteward.Proofs.Serializing
import CacheSteward.Proofs.Tabulated
import CacheSteward.Proofs.Preview
import CacheSteward.Proofs.Rounding
import CacheSteward.Proofs.Numerals
import CacheSteward.Proofs.JsonReading
import CacheSteward.Proofs.JsonLines
import CacheSteward.Proofs.LogLines
