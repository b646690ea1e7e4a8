import WalletWatch.Address
import WalletWatch.AddressMap
import WalletWatch.Chain.Archive
import WalletWatch.Chain.Basic
import WalletWatch.Chain.Extraction
import WalletWatch.Chain.Latency
import WalletWatch.Chain.Node
import WalletWatch.Chain.Scan
import WalletWatch.Chain.Sweep
import WalletWatch.Chain.TimedSweep
import WalletWatch.Chain.TransferEvent
import WalletWatch.Chain.Window
import WalletWatch.Command
import WalletWatch.CommandLine.Plan
import WalletWatch.CommandLine.Request
import WalletWatch.Failure
import WalletWatch.Headers.Message
import WalletWatch.Headers.Pump
import WalletWatch.Health
import WalletWatch.Hex
import WalletWatch.Json.Basic
import WalletWatch.Json.Member
import WalletWatch.Json.Parser
import WalletWatch.Json.Printer
import WalletWatch.Json.Record
import WalletWatch.Log.Entry
import WalletWatch.Log.Events
import WalletWatch.Log.Filter
import WalletWatch.Log.Output
import WalletWatch.Machine
import WalletWatch.Main
import WalletWatch.Node.Client
import WalletWatch.Node.Quantity
import WalletWatch.Node.Query
import WalletWatch.Node.Record
import WalletWatch.Node.Reply
import WalletWatch.Number.Binary
import WalletWatch.Number.Decimal
import WalletWatch.Number.Scientific
import WalletWatch.Number.Width
import WalletWatch.Pattern.Basic
import WalletWatch.Pattern.Category
import WalletWatch.Pattern.Charset
import WalletWatch.Pattern.Fault
import WalletWatch.Pattern.Meaning
import WalletWatch.Pattern.Parser
import WalletWatch.Pattern.Regex
import WalletWatch.Pattern.Room
import WalletWatch.Pattern.Script
import WalletWatch.Pattern.Trait
import WalletWatch.Retry.Policy
import WalletWatch.Retry.Run
import WalletWatch.Service.Startup
import WalletWatch.Settings.Basic
import WalletWatch.Settings.Field
import WalletWatch.Settings.Load
import WalletWatch.Settings.Rules
import WalletWatch.Store.Command
import WalletWatch.Store.Subscription
import WalletWatch.Store.Target
import WalletWatch.Text.Blank
import WalletWatch.Text.Invisible
import WalletWatch.Text.Lower
import WalletWatch.Text.Quoted
import WalletWatch.Text.Runs
import WalletWatch.Text.Utf16
import WalletWatch.Text.Utf8
import WalletWatch.Time.Calendar
import WalletWatch.Time.Instant
import WalletWatch.Time.Reader
import WalletWatch.Time.Span
import WalletWatch.Token.Lookup
import WalletWatch.Token.Run
import WalletWatch.Token.Symbol
import WalletWatch.Toml.Basic
import WalletWatch.Toml.Lexical
import WalletWatch.Toml.Parser
import WalletWatch.Toml.Printer
import WalletWatch.Tracker.Basic
import WalletWatch.Tracker.Dispatch
import WalletWatch.Tracker.Inbox
import WalletWatch.Tracker.Listener
import WalletWatch.Tracker.Run
import WalletWatch.Tracker.Scanning
import WalletWatch.Tracker.Scene
import WalletWatch.Transfer
import WalletWatch.Proofs.Machine
import WalletWatch.Proofs.Result
import WalletWatch.Proofs.Listener.Step
import WalletWatch.Proofs.Tracker.Operation
import WalletWatch.Proofs.Tracker.Registration
import WalletWatch.Proofs.Listener.Queue
import WalletWatch.Proofs.Listener.Progress
import WalletWatch.Proofs.Tracker.Projection
import WalletWatch.Proofs.Listener.Delivery
import WalletWatch.Proofs.Tracker.Delivery
import WalletWatch.Proofs.Listener.Publication
import WalletWatch.Proofs.Chain.Narrowing
import WalletWatch.Proofs.Tracker.Publication
import WalletWatch.Proofs.Tracker.Scanning
import WalletWatch.Proofs.Hex.Bytes
import WalletWatch.Proofs.Chain.TransferEvent
import WalletWatch.Proofs.Chain.Involvement
import WalletWatch.Proofs.Chain.Window
import WalletWatch.Proofs.Chain.Report
import WalletWatch.Proofs.Token.Resolution
import WalletWatch.Proofs.Token.Concurrency
import WalletWatch.Proofs.Chain.Reference
import WalletWatch.Proofs.Chain.Agreement
import WalletWatch.Proofs.Tracker.Agreement
import WalletWatch.Proofs.Chain.Sweep
import WalletWatch.Proofs.Tracker.Share
import WalletWatch.Proofs.Tracker.Inbox
import WalletWatch.Proofs.Number.Decimal
import WalletWatch.Proofs.Time.Calendar
import WalletWatch.Proofs.Time.Instant
import WalletWatch.Proofs.Address
import WalletWatch.Proofs.Json.Numeral
import WalletWatch.Proofs.Json.RoundTrip
import WalletWatch.Proofs.Json.Record
import WalletWatch.Proofs.Json.Member
import WalletWatch.Proofs.Transfer
import WalletWatch.Proofs.Command
import WalletWatch.Proofs.CommandLine.Plan
import WalletWatch.Proofs.Headers.Pump
import WalletWatch.Proofs.Listener.Subscription
import WalletWatch.Proofs.Tracker.Subscription
import WalletWatch.Proofs.Chain.Extraction
import WalletWatch.Proofs.Node.Receipt
import WalletWatch.Proofs.Tracker.Shutdown
import WalletWatch.Proofs.Token.Stability
import WalletWatch.Proofs.Chain.TimedSweep
import WalletWatch.Proofs.Text.Utf8
import WalletWatch.Proofs.Text.Blank
import WalletWatch.Proofs.Token.Symbol
import WalletWatch.Proofs.Token.Sequence
import WalletWatch.Proofs.Headers.Delivery
import WalletWatch.Proofs.Retry
import WalletWatch.Proofs.Chain.BlockTime
import WalletWatch.Proofs.Node.Quantity
import WalletWatch.Proofs.Node.Record
import WalletWatch.Proofs.Json.Value
import WalletWatch.Proofs.Headers.Confirmation
import WalletWatch.Proofs.Identifier
import WalletWatch.Proofs.Number.Signed
import WalletWatch.Proofs.Settings.Rules
import WalletWatch.Proofs.Settings.Load
import WalletWatch.Proofs.Json.Kept
import WalletWatch.Proofs.Log.Line
import WalletWatch.Proofs.Store.Escape
import WalletWatch.Proofs.Store.Target
import WalletWatch.Proofs.Chain.Topic
import WalletWatch.Proofs.Node.Spelling
