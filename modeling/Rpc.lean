import Rpc.Archive.Cell
import Rpc.Archive.Content
import Rpc.Archive.Tree
import Rpc.Archive.Window
import Rpc.Bytes
import Rpc.Call.Context
import Rpc.Call.Exchange
import Rpc.Call.Race
import Rpc.Call.Table
import Rpc.Connection.Basic
import Rpc.Connection.Calling
import Rpc.Connection.Incoming
import Rpc.Connection.Intake
import Rpc.Connection.Lifecycle
import Rpc.Connection.Outgoing
import Rpc.Connection.Pair
import Rpc.Connection.Phase
import Rpc.Connection.Receiving
import Rpc.Connection.Step
import Rpc.Connection.Writing
import Rpc.Dispatch
import Rpc.Error
import Rpc.Frame.Basic
import Rpc.Frame.Codec
import Rpc.Layer.Basic
import Rpc.Layer.Stock
import Rpc.Layer.Tracing
import Rpc.Listener.Admission
import Rpc.Listener.Basic
import Rpc.Loopback.Meeting
import Rpc.Loopback.Party
import Rpc.Loopback.Scripted
import Rpc.Loopback.Trial
import Rpc.Message.Baggage
import Rpc.Message.Content
import Rpc.Message.Kind
import Rpc.Message.TraceId
import Rpc.Metrics
import Rpc.Net.Address
import Rpc.Net.Domain.Basic
import Rpc.Net.Domain.Folding
import Rpc.Net.Endpoint
import Rpc.Net.Network
import Rpc.Net.Resolver.Basic
import Rpc.Net.Resolver.Race
import Rpc.Net.ServerName
import Rpc.Net.Uri
import Rpc.Proofs.Archive.Contents
import Rpc.Proofs.Archive.Loads
import Rpc.Proofs.Archive.Nodes
import Rpc.Proofs.Archive.ReadBack
import Rpc.Proofs.Archive.Trees
import Rpc.Proofs.Call.Entries
import Rpc.Proofs.Call.History
import Rpc.Proofs.Call.Numbers
import Rpc.Proofs.Call.Outcomes
import Rpc.Proofs.Call.Search
import Rpc.Proofs.Connection.Answers
import Rpc.Proofs.Connection.Calls
import Rpc.Proofs.Connection.Cargo
import Rpc.Proofs.Connection.Correlation
import Rpc.Proofs.Connection.Deadlines
import Rpc.Proofs.Connection.Door
import Rpc.Proofs.Connection.Effort
import Rpc.Proofs.Connection.FirstFrame
import Rpc.Proofs.Connection.Greeting
import Rpc.Proofs.Connection.Introduction
import Rpc.Proofs.Connection.Lived
import Rpc.Proofs.Connection.Lookups
import Rpc.Proofs.Connection.Mediation
import Rpc.Proofs.Connection.OnWire
import Rpc.Proofs.Connection.Passage
import Rpc.Proofs.Connection.Pending
import Rpc.Proofs.Connection.Phases
import Rpc.Proofs.Connection.Reception
import Rpc.Proofs.Connection.Sequence
import Rpc.Proofs.Connection.Shadows
import Rpc.Proofs.Connection.Starting
import Rpc.Proofs.Connection.Stranded
import Rpc.Proofs.Connection.Teardown
import Rpc.Proofs.Connection.Traceless
import Rpc.Proofs.Connection.Unseen
import Rpc.Proofs.Connection.Welcome
import Rpc.Proofs.Connection.Winding
import Rpc.Proofs.Connection.Withdrawal
import Rpc.Proofs.Frame.Appending
import Rpc.Proofs.Frame.Chunks
import Rpc.Proofs.Frame.Draining
import Rpc.Proofs.Frame.ReadBack
import Rpc.Proofs.Frame.Taking
import Rpc.Proofs.Keyed
import Rpc.Proofs.Layer.Joins
import Rpc.Proofs.Layer.Stamps
import Rpc.Proofs.Listener.Accounts
import Rpc.Proofs.Listener.Admitting
import Rpc.Proofs.Listener.Encounters
import Rpc.Proofs.Listener.Guests
import Rpc.Proofs.Listener.Lives
import Rpc.Proofs.Listener.Resting
import Rpc.Proofs.Listener.Starts
import Rpc.Proofs.Listener.Visits
import Rpc.Proofs.Message.Changes
import Rpc.Proofs.Net.Addresses
import Rpc.Proofs.Net.Endpoints
import Rpc.Proofs.Net.Latecomers
import Rpc.Proofs.Net.Listening
import Rpc.Proofs.Net.Recall
import Rpc.Proofs.Notes
import Rpc.Proofs.Stream.Failures
import Rpc.Proofs.Stream.Moves
import Rpc.Proofs.Stream.Turns
import Rpc.Proofs.Text.Numerals
import Rpc.Proofs.Text.Order
import Rpc.Proofs.Tls.Decisions
import Rpc.Settings
import Rpc.Span
import Rpc.Stream.Duplex
import Rpc.Stream.Permit
import Rpc.Text.Base64
import Rpc.Text.Blank
import Rpc.Text.Combining
import Rpc.Text.Composite
import Rpc.Text.Digits
import Rpc.Text.Direction
import Rpc.Text.Hex
import Rpc.Text.Joining
import Rpc.Text.Mark
import Rpc.Text.Normal
import Rpc.Text.Pieces
import Rpc.Text.Punycode
import Rpc.Text.Quoted
import Rpc.Tls.Certificate
import Rpc.Tls.Handshake
import Rpc.Tls.Identity
import Rpc.Tls.Pem
import Rpc.Tls.Policy
import Rpc.Transport
