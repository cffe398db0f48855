import AnalyticsClient.Catalog.Dataset
import AnalyticsClient.Catalog.Link
import AnalyticsClient.Choice
import AnalyticsClient.Completion.Basic
import AnalyticsClient.Completion.Trial
import AnalyticsClient.Config.Basic
import AnalyticsClient.Config.File
import AnalyticsClient.Config.Toml
import AnalyticsClient.Defect
import AnalyticsClient.Duration
import AnalyticsClient.Entries
import AnalyticsClient.Error
import AnalyticsClient.Json.Basic
import AnalyticsClient.Json.Draft
import AnalyticsClient.Json.Number
import AnalyticsClient.Json.Printer
import AnalyticsClient.Json.Reader
import AnalyticsClient.Log
import AnalyticsClient.Mutation.State
import AnalyticsClient.Mutation.Token
import AnalyticsClient.Number.Binary64
import AnalyticsClient.Number.Shortest
import AnalyticsClient.Operation.Arguments
import AnalyticsClient.Operation.Command
import AnalyticsClient.Operation.Descriptor
import AnalyticsClient.Operation.Kind
import AnalyticsClient.Operation.Output
import AnalyticsClient.Proofs.Catalog.Credentials
import AnalyticsClient.Proofs.Catalog.LinkForm
import AnalyticsClient.Proofs.Catalog.Secrets
import AnalyticsClient.Proofs.Completion.Outcome
import AnalyticsClient.Proofs.Completion.Ownership
import AnalyticsClient.Proofs.Completion.Verdict
import AnalyticsClient.Proofs.Completion.Watch
import AnalyticsClient.Proofs.Completion.Wrapping
import AnalyticsClient.Proofs.Config.Files
import AnalyticsClient.Proofs.Config.Saved
import AnalyticsClient.Proofs.Config.Text
import AnalyticsClient.Proofs.Mutation.Naming
import AnalyticsClient.Proofs.Mutation.Translation
import AnalyticsClient.Proofs.Operation.ArgumentForm
import AnalyticsClient.Proofs.Operation.CommandForm
import AnalyticsClient.Proofs.Operation.Description
import AnalyticsClient.Proofs.Operation.Heeded
import AnalyticsClient.Proofs.Operation.Language
import AnalyticsClient.Proofs.Operation.RoundTrip
import AnalyticsClient.Proofs.Operation.Veil
import AnalyticsClient.Proofs.Query.Admission
import AnalyticsClient.Proofs.Query.Aftermath
import AnalyticsClient.Proofs.Query.Candor
import AnalyticsClient.Proofs.Query.Delivery
import AnalyticsClient.Proofs.Query.Gathering
import AnalyticsClient.Proofs.Query.Live
import AnalyticsClient.Proofs.Query.NamedParameters
import AnalyticsClient.Proofs.Query.Order
import AnalyticsClient.Proofs.Query.Owed
import AnalyticsClient.Proofs.Query.Passage
import AnalyticsClient.Proofs.Query.Renaming
import AnalyticsClient.Proofs.Query.Report
import AnalyticsClient.Proofs.Query.Room
import AnalyticsClient.Proofs.Query.Settings
import AnalyticsClient.Proofs.Query.Understanding
import AnalyticsClient.Proofs.Query.Work
import AnalyticsClient.Proofs.Session.Accounts
import AnalyticsClient.Proofs.Session.Advance
import AnalyticsClient.Proofs.Session.Batch
import AnalyticsClient.Proofs.Session.Blame
import AnalyticsClient.Proofs.Session.Calls
import AnalyticsClient.Proofs.Session.Confidential
import AnalyticsClient.Proofs.Session.Echo
import AnalyticsClient.Proofs.Session.Faults
import AnalyticsClient.Proofs.Session.Futures
import AnalyticsClient.Proofs.Session.Handover
import AnalyticsClient.Proofs.Session.Isolation
import AnalyticsClient.Proofs.Session.Likeness
import AnalyticsClient.Proofs.Session.Mirror
import AnalyticsClient.Proofs.Session.OwnStep
import AnalyticsClient.Proofs.Session.Party
import AnalyticsClient.Proofs.Session.Serving
import AnalyticsClient.Proofs.Session.Silence
import AnalyticsClient.Proofs.Session.Streams
import AnalyticsClient.Proofs.Session.Truth
import AnalyticsClient.Proofs.Session.Turn
import AnalyticsClient.Proofs.Session.Waiting
import AnalyticsClient.Proofs.Session.Waves
import AnalyticsClient.Proofs.Text.Utf8
import AnalyticsClient.Proofs.Text.Within
import AnalyticsClient.Proofs.Toml.Lines
import AnalyticsClient.Proofs.Toml.Number
import AnalyticsClient.Proofs.Wire.Agreement
import AnalyticsClient.Proofs.Wire.Form
import AnalyticsClient.Proofs.Wire.Kept
import AnalyticsClient.Proofs.Wire.Members
import AnalyticsClient.Proofs.Wire.Plain
import AnalyticsClient.Proofs.Wire.Record
import AnalyticsClient.Proofs.Wire.Recovery
import AnalyticsClient.Proofs.Wire.RoundTrip
import AnalyticsClient.Query.Metadata
import AnalyticsClient.Query.Options
import AnalyticsClient.Query.Producer
import AnalyticsClient.Query.Request
import AnalyticsClient.Query.Stream
import AnalyticsClient.Session.Basic
import AnalyticsClient.Session.Ledger
import AnalyticsClient.Session.Step
import AnalyticsClient.Text.Blank
import AnalyticsClient.Text.Printable
import AnalyticsClient.Text.Quoted
import AnalyticsClient.Toml.Document
import AnalyticsClient.Toml.Scalar
import AnalyticsClient.Toml.Text
import AnalyticsClient.Toml.Value
import AnalyticsClient.Wire.Error
import AnalyticsClient.Wire.Fault
import AnalyticsClient.Wire.Fields
import AnalyticsClient.Wire.Position
import AnalyticsClient.Wire.Source
import AnalyticsClient.Wire.Variants
import AnalyticsClient.Proofs.Operation.Vocabulary
