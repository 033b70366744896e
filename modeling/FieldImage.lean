import FieldImage.Address
import FieldImage.Address.Parser
import FieldImage.Area
import FieldImage.Bytes
import FieldImage.Changes
import FieldImage.Client
import FieldImage.Command
import FieldImage.CommandLine
import FieldImage.Driver.Mailbox
import FieldImage.Driver.Registers
import FieldImage.Fault
import FieldImage.Host
import FieldImage.Host.FileTree
import FieldImage.Host.Path
import FieldImage.Image.Access
import FieldImage.Image.Owned
import FieldImage.Image.View
import FieldImage.Invocation
import FieldImage.Json
import FieldImage.Json.Reader
import FieldImage.Lock
import FieldImage.LogFilter
import FieldImage.LogFilter.CharSet
import FieldImage.LogFilter.Pattern
import FieldImage.LogFilter.Symbol
import FieldImage.Logging
import FieldImage.Mailbox
import FieldImage.Main
import FieldImage.Modbus.Backend
import FieldImage.Modbus.Link
import FieldImage.Modbus.Tcp
import FieldImage.Polling
import FieldImage.Reading
import FieldImage.Real
import FieldImage.Real.Binary
import FieldImage.Real.Reader
import FieldImage.Real.Shortest
import FieldImage.Register.Set
import FieldImage.Register.Table
import FieldImage.Segment.Layout
import FieldImage.Server
import FieldImage.Service
import FieldImage.Service.Machine
import FieldImage.Settings
import FieldImage.Settings.Environment
import FieldImage.Settings.Load
import FieldImage.Settings.Reader
import FieldImage.Shared
import FieldImage.Snapshot
import FieldImage.Text.Blank
import FieldImage.Text.Duration
import FieldImage.Text.Hidden
import FieldImage.Text.Letter
import FieldImage.Text.Numeral
import FieldImage.Text.Quoted
import FieldImage.Text.Ranges
import FieldImage.UpdateTask
import FieldImage.Value
import FieldImage.Value.Json
import FieldImage.Value.Text
import FieldImage.Write
import FieldImage.Yaml.Document
import FieldImage.Yaml.Node
import FieldImage.Yaml.Node.Reader
import FieldImage.Yaml.Place
import FieldImage.Yaml.Scalar
import FieldImage.Yaml.Token
import FieldImage.Yaml.Token.Lexer
import FieldImage.Yaml.Token.Scalar
import FieldImage.Yaml.Token.Tag
import FieldImage.Yaml.Writer
import FieldImage.Proofs.Fault
import FieldImage.Proofs.Command.RoundTrip
import FieldImage.Proofs.Handshake.Exchange
import FieldImage.Proofs.Handshake.Moves
import FieldImage.Proofs.Handshake.Ledger
import FieldImage.Proofs.Handshake.Serving
import FieldImage.Proofs.Handshake.History
import FieldImage.Proofs.Handshake.DataLog
import FieldImage.Proofs.Handshake.Ownership
import FieldImage.Proofs.Handshake.Delivery
import FieldImage.Proofs.Handshake.Wakeup
import FieldImage.Proofs.Handshake.Gate
import FieldImage.Proofs.Handshake.Cycle
import FieldImage.Proofs.Bytes
import FieldImage.Proofs.Image.View
import FieldImage.Proofs.Segment.Memory
import FieldImage.Proofs.Handshake.Hosting
import FieldImage.Proofs.Image.Calls
import FieldImage.Proofs.Image.Storage
import FieldImage.Proofs.Image.Agreement
import FieldImage.Proofs.Image.Owned
import FieldImage.Proofs.Register.Bytes
import FieldImage.Proofs.Register.Image
import FieldImage.Proofs.Register.FlatImage
import FieldImage.Proofs.Modbus.Runs
import FieldImage.Proofs.Modbus.Splice
import FieldImage.Proofs.Modbus.Writes
import FieldImage.Proofs.Modbus.History
import FieldImage.Proofs.Modbus.Transfers
import FieldImage.Proofs.Modbus.Footprint
import FieldImage.Proofs.Modbus.Refusal
import FieldImage.Proofs.Shared
import FieldImage.Proofs.Snapshot
import FieldImage.Proofs.Driver.Registers
import FieldImage.Proofs.Driver.Session
import FieldImage.Proofs.Driver.Mailbox
import FieldImage.Proofs.Driver.Timeline
import FieldImage.Proofs.Driver.Likeness
import FieldImage.Proofs.Driver.Interchange
import FieldImage.Proofs.Command.Canonical
import FieldImage.Proofs.Server.Prevalidation
import FieldImage.Proofs.Server.Exit
import FieldImage.Proofs.Handshake.Signals
import FieldImage.Proofs.Handshake.Drain
import FieldImage.Proofs.Handshake.Accounts
import FieldImage.Proofs.Image.Rules
import FieldImage.Proofs.Image.InPlace
import FieldImage.Proofs.Server.InPlace
import FieldImage.Proofs.Image.Checks
import FieldImage.Proofs.Image.Overlay
import FieldImage.Proofs.Image.Encoding
import FieldImage.Proofs.Image.Typed
import FieldImage.Proofs.Image.Buffer
import FieldImage.Proofs.Image.BitSet
import FieldImage.Proofs.Address.Notation
import FieldImage.Proofs.Value.Notation
import FieldImage.Proofs.Mailbox.Posting
import FieldImage.Proofs.Changes
import FieldImage.Proofs.Host.FileTree
import FieldImage.Proofs.Host.Segments
import FieldImage.Proofs.Settings
import FieldImage.Proofs.Modbus.MaximalRuns
import FieldImage.Proofs.Modbus.LinkCall
import FieldImage.Proofs.Modbus.Rack
