import RealmPlan.Text.Blank
import RealmPlan.Text.Numeral
import RealmPlan.Text.Quoted
import RealmPlan.Text.Runs
import RealmPlan.Text.Unprintable
import RealmPlan.Text.Alphanumeric
import RealmPlan.Text.Cased
import RealmPlan.Text.Letters
import RealmPlan.Text.Category
import RealmPlan.Text.Lowercase
import RealmPlan.Text.Kin
import RealmPlan.Word
import RealmPlan.Dict
import RealmPlan.Binary64
import RealmPlan.Json
import RealmPlan.Json.Printer
import RealmPlan.Json.Reader
import RealmPlan.Base64
import RealmPlan.Instant
import RealmPlan.Mismatch
import RealmPlan.Document
import RealmPlan.Document.Json
import RealmPlan.Document.Yaml
import RealmPlan.Yaml.Cursor
import RealmPlan.Yaml.Scalar
import RealmPlan.Yaml.Token
import RealmPlan.Yaml.Token.Lexer
import RealmPlan.Yaml.Node
import RealmPlan.Yaml.Writer
import RealmPlan.Metadata
import RealmPlan.Metadata.Codec
import RealmPlan.Secret
import RealmPlan.Secret.Codec
import RealmPlan.Client
import RealmPlan.Client.Codec
import RealmPlan.Role
import RealmPlan.Role.Codec
import RealmPlan.Role.Index
import RealmPlan.Role.Change
import RealmPlan.Status
import RealmPlan.Status.Codec
import RealmPlan.Resource
import RealmPlan.Resource.Codec
import RealmPlan.Observation
import RealmPlan.Observation.Codec
import RealmPlan.Schema
import RealmPlan.Schema.Resource
import RealmPlan.Action
import RealmPlan.Plan
import RealmPlan.Plan.Json
import RealmPlan.Pass
import RealmPlan.Credentials
import RealmPlan.Planning
import RealmPlan.Violation
import RealmPlan.Refusal
import RealmPlan.Execution
import RealmPlan.Counters
import RealmPlan.Counters.Exposition
import RealmPlan.Counters.Registry
import RealmPlan.Log
import RealmPlan.Log.Pattern
import RealmPlan.Log.Pattern.Reader
import RealmPlan.Log.Condition
import RealmPlan.Log.Directive
import RealmPlan.Log.Filter
import RealmPlan.Log.Line
import RealmPlan.Settings
import RealmPlan.Events
import RealmPlan.Service
import RealmPlan.Command.Request
import RealmPlan.Command
import RealmPlan.Main
import RealmPlan.Proofs.Uniqueness
import RealmPlan.Proofs.Classification
import RealmPlan.Proofs.Pairing
import RealmPlan.Proofs.Matching
import RealmPlan.Proofs.Attempts
import RealmPlan.Proofs.Halting
import RealmPlan.Proofs.Store
import RealmPlan.Proofs.Store.Contents
import RealmPlan.Proofs.Store.ById
import RealmPlan.Proofs.Store.ByName
import RealmPlan.Proofs.Convergence
import RealmPlan.Proofs.Idempotence
import RealmPlan.Proofs.Deadlocks
import RealmPlan.Proofs.Advance
import RealmPlan.Proofs.Replanning
import RealmPlan.Proofs.Conflicts
import RealmPlan.Proofs.Scan
import RealmPlan.Proofs.Keys
import RealmPlan.Proofs.Order
import RealmPlan.Proofs.Separation
import RealmPlan.Proofs.Discretion
import RealmPlan.Proofs.Answers
import RealmPlan.Proofs.Report
import RealmPlan.Proofs.Scrape
import RealmPlan.Proofs.Counting
import RealmPlan.Proofs.Ledger
import RealmPlan.Proofs.Acceptance
import RealmPlan.Proofs.Layout
import RealmPlan.Proofs.Targets
import RealmPlan.Proofs.Steady
import RealmPlan.Proofs.Tables
import RealmPlan.Proofs.Refreshing
import RealmPlan.Proofs.Reading
import RealmPlan.Proofs.RoundTrip
import RealmPlan.Proofs.Shown
import RealmPlan.Proofs.Gate
import RealmPlan.Proofs.Comparison
import RealmPlan.Proofs.Conformity
import RealmPlan.Proofs.Admission
import RealmPlan.Proofs.Publication
