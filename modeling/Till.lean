import Till.ClientError
import Till.CommandLine.Arguments
import Till.CommandLine.Help
import Till.CommandLine.Invocation
import Till.CommandLine.Option
import Till.CommandLine.Run
import Till.Connection
import Till.Details.Basic
import Till.Details.Setter
import Till.Details.Slot
import Till.Double.Dyadic
import Till.Double.Layout
import Till.Double.Shortest
import Till.FieldError
import Till.Gateway.Envelope
import Till.Gateway.Performer
import Till.Gateway.Request
import Till.Gateway.World
import Till.Json.Basic
import Till.Json.Entries
import Till.Json.Printer
import Till.Json.Reader
import Till.Json.Shape
import Till.Kind.Basic
import Till.Kind.Name
import Till.Limits
import Till.Main
import Till.Operation.Factory
import Till.Operation.Job
import Till.Operation.Prepared
import Till.Operation.Query
import Till.Path
import Till.Proofs.Bulk.Applied
import Till.Proofs.Bulk.Call
import Till.Proofs.Bulk.Denotes
import Till.Proofs.Bulk.Disjoint
import Till.Proofs.Bulk.Image
import Till.Proofs.Bulk.Known
import Till.Proofs.Bulk.Meaning
import Till.Proofs.Bulk.Merge
import Till.Proofs.Bulk.Overlay
import Till.Proofs.Bulk.Prefix
import Till.Proofs.Bulk.Reading
import Till.Proofs.Bulk.Replay
import Till.Proofs.Bulk.Restore
import Till.Proofs.Bulk.Slots
import Till.Proofs.Bulk.Unknown
import Till.Proofs.Checked
import Till.Proofs.CommandLine.Key
import Till.Proofs.CommandLine.Send
import Till.Proofs.Details.Again
import Till.Proofs.Details.Customer
import Till.Proofs.Details.Held
import Till.Proofs.Details.Schema
import Till.Proofs.Details.Write
import Till.Proofs.Double.Finite
import Till.Proofs.Gateway.Address
import Till.Proofs.Gateway.Envelope
import Till.Proofs.Gateway.Failure
import Till.Proofs.Gateway.Summary
import Till.Proofs.Json.Record
import Till.Proofs.Json.Shape
import Till.Proofs.Kind.BulkKey
import Till.Proofs.Kind.Name
import Till.Proofs.Limits
import Till.Proofs.Operation.Body
import Till.Proofs.Operation.CustomerTexts
import Till.Proofs.Operation.Dispatch
import Till.Proofs.Operation.Effect
import Till.Proofs.Operation.Frame
import Till.Proofs.Operation.History
import Till.Proofs.Operation.Key
import Till.Proofs.Operation.LastWrite
import Till.Proofs.Operation.Lists
import Till.Proofs.Operation.Reach
import Till.Proofs.Operation.ReadOnly
import Till.Proofs.Operation.Secret
import Till.Proofs.Operation.Session
import Till.Proofs.Operation.Steps
import Till.Proofs.Operation.Verdict
import Till.Proofs.Operation.Written
import Till.Proofs.Path
import Till.Proofs.Receipt.Item
import Till.Proofs.Receipt.Make
import Till.Proofs.Receipt.Payment
import Till.Proofs.Receipt.RoundTrip
import Till.Proofs.Settings.Defaults
import Till.Proofs.Settings.Filled
import Till.Proofs.Settings.Layers
import Till.Proofs.Settings.Saved
import Till.Proofs.Text.Bytes
import Till.Proofs.Text.Caseless
import Till.Proofs.Text.Lower
import Till.Proofs.Text.Quoted
import Till.Proofs.Text.Spelling
import Till.Proofs.Text.Trim
import Till.Proofs.Token
import Till.Proofs.Toml.Document
import Till.Proofs.Toml.Quote
import Till.Receipt.Item
import Till.Receipt.Operator
import Till.Receipt.Party
import Till.Receipt.Payment
import Till.Receipt.TextBlock
import Till.Settings.Basic
import Till.Settings.Document
import Till.Settings.Layers
import Till.Text.Digits
import Till.Text.HiddenTable
import Till.Text.Lower
import Till.Text.LowerTable
import Till.Text.Quoted
import Till.Text.Trim
import Till.Token
import Till.Toml.Basic
import Till.Toml.Document
import Till.Toml.Quote
import Till.Toml.Scalar
import Till.Toml.Section
import Till.Toml.Table
