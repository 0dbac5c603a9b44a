import UsbHost.Access.Lookup
import UsbHost.Access.Transfer
import UsbHost.Bench.Basic
import UsbHost.Bench.Layer
import UsbHost.Bus.Basic
import UsbHost.Bus.Call
import UsbHost.Bus.Code
import UsbHost.Bus.Device
import UsbHost.Bus.Layer
import UsbHost.Bus.Transfer
import UsbHost.Bytes
import UsbHost.Command.Line
import UsbHost.Command.LogFilter
import UsbHost.Command.Options
import UsbHost.Command.Program
import UsbHost.Command.Report
import UsbHost.Command.Run
import UsbHost.Config.Basic
import UsbHost.Config.DeviceId
import UsbHost.Config.Document
import UsbHost.Config.Storage
import UsbHost.Files.Path
import UsbHost.Files.Tree
import UsbHost.Json.Form
import UsbHost.Json.Lexer
import UsbHost.Json.Reader
import UsbHost.Json.Value
import UsbHost.Json.Writer
import UsbHost.Main
import UsbHost.Native.Fault
import UsbHost.Native.Layer
import UsbHost.Native.Pipe
import UsbHost.Native.Request
import UsbHost.Pattern.Atom
import UsbHost.Pattern.CharacterSet
import UsbHost.Pattern.Opening
import UsbHost.Pattern.Reader
import UsbHost.Pattern.Siblings
import UsbHost.Proofs.Words.HandleTable
import UsbHost.Proofs.Words.History
import UsbHost.Text.Alphanumeric
import UsbHost.Text.Blank
import UsbHost.Text.Decimal
import UsbHost.Text.HexData
import UsbHost.Text.Numeral
import UsbHost.Text.Printable
import UsbHost.Text.Quoted
import UsbHost.Text.Terminal
import UsbHost.Toml.Scalar
import UsbHost.Toml.Statement
import UsbHost.Toml.Table
import UsbHost.Toml.Text
import UsbHost.Words.HandleTable
import UsbHost.Words.Machine
import UsbHost.Words.Operands
import UsbHost.Words.Run
import UsbHost.Words.Word
import UsbHost.Proofs.Words.Ending
import UsbHost.Proofs.Words.Issue
import UsbHost.Proofs.Bench.Effect
import UsbHost.Proofs.Words.Machine
import UsbHost.Proofs.Bench.Atomicity
import UsbHost.Proofs.Words.Lifecycle
import UsbHost.Proofs.Bus.Effect
import UsbHost.Proofs.Lifecycle
import UsbHost.Proofs.Bus.Ownership
import UsbHost.Proofs.Bus.Ledger
import UsbHost.Proofs.Bus.Lookup
import UsbHost.Proofs.Bus.Outcome
import UsbHost.Proofs.Bench.Protocol
import UsbHost.Proofs.Bench.Balance
import UsbHost.Proofs.Bench.Queue
import UsbHost.Proofs.Mirror.Host
import UsbHost.Proofs.Mirror.Run
import UsbHost.Proofs.Toml.Text
import UsbHost.Proofs.Toml.Statement
import UsbHost.Proofs.Toml.Table
import UsbHost.Proofs.Config.Document
import UsbHost.Proofs.Files.Tree
import UsbHost.Proofs.Config.Storage
import UsbHost.Proofs.Command.Visit
import UsbHost.Proofs.Bench.Independence
import UsbHost.Proofs.Memory
import UsbHost.Proofs.Words.Stack
import UsbHost.Proofs.Words.Kinds
import UsbHost.Proofs.Bench.Outcome
import UsbHost.Proofs.Listing.Row
import UsbHost.Proofs.Listing.Hosts
import UsbHost.Proofs.Bus.Transfer
import UsbHost.Proofs.PipeQueries
import UsbHost.Proofs.DataStage
import UsbHost.Proofs.Command.Task
import UsbHost.Proofs.Command.Refusal
import UsbHost.Proofs.Command.Outcome
import UsbHost.Proofs.Config.Validation
import UsbHost.Proofs.Command.Target
import UsbHost.Proofs.Config.DeviceId
import UsbHost.Proofs.Text.HexData
import UsbHost.Proofs.Text.Number
import UsbHost.Proofs.Text.HexPairs
import UsbHost.Proofs.Command.Stage
import UsbHost.Proofs.Json.Number
import UsbHost.Proofs.Json.Quoted
import UsbHost.Proofs.Json.Layout
import UsbHost.Proofs.Json.Text
import UsbHost.Proofs.Json.Record
