import TerminalGateway.Main
import TerminalGateway.Record.Account
import TerminalGateway.Record.Market
import TerminalGateway.Simulation.SocketWire
import TerminalGateway.Simulation.Wire
import TerminalGateway.View.Message
import TerminalGateway.View.Settings
import TerminalGateway.View.Simulation
import TerminalGateway.Proofs.Asset.Forms
import TerminalGateway.Proofs.Calendar.Days
import TerminalGateway.Proofs.Calendar.Reading
import TerminalGateway.Proofs.Command.Amount
import TerminalGateway.Proofs.Command.Order
import TerminalGateway.Proofs.Command.Table
import TerminalGateway.Proofs.CommandLine.Readiness
import TerminalGateway.Proofs.CommandLine.Start
import TerminalGateway.Proofs.Decimal.Reading
import TerminalGateway.Proofs.Frame.Pieces
import TerminalGateway.Proofs.Frame.Resuming
import TerminalGateway.Proofs.Frame.Search
import TerminalGateway.Proofs.Frame.Splitting
import TerminalGateway.Proofs.Json.Flat
import TerminalGateway.Proofs.Json.Ordering
import TerminalGateway.Proofs.Json.Reading
import TerminalGateway.Proofs.Json.Spelling
import TerminalGateway.Proofs.Market.Arrangement
import TerminalGateway.Proofs.Market.Book
import TerminalGateway.Proofs.Market.BookMessage
import TerminalGateway.Proofs.Market.TradeTime
import TerminalGateway.Proofs.Message.Answers
import TerminalGateway.Proofs.Number.Shortest
import TerminalGateway.Proofs.Queue.Gauge
import TerminalGateway.Proofs.Queue.Traffic
import TerminalGateway.Proofs.Race.Admission
import TerminalGateway.Proofs.Race.Basic
import TerminalGateway.Proofs.Race.Conclusion
import TerminalGateway.Proofs.Race.Jobs
import TerminalGateway.Proofs.Race.Outlook
import TerminalGateway.Proofs.Race.Phases
import TerminalGateway.Proofs.Race.Roster
import TerminalGateway.Proofs.Record.Provenance
import TerminalGateway.Proofs.Record.Reading
import TerminalGateway.Proofs.Settings.Sizes
import TerminalGateway.Proofs.Subscription.Delivery
import TerminalGateway.Proofs.Subscription.History
import TerminalGateway.Proofs.Subscription.Registry
import TerminalGateway.Proofs.Subscription.Tables
import TerminalGateway.Proofs.Subscription.Undoing
import TerminalGateway.Proofs.System.Attempts
import TerminalGateway.Proofs.System.Backlog
import TerminalGateway.Proofs.System.Basic
import TerminalGateway.Proofs.System.Closing
import TerminalGateway.Proofs.System.Course
import TerminalGateway.Proofs.System.Coverage
import TerminalGateway.Proofs.System.Endings
import TerminalGateway.Proofs.System.Feeds
import TerminalGateway.Proofs.System.Handshake
import TerminalGateway.Proofs.System.Isolation
import TerminalGateway.Proofs.System.Login
import TerminalGateway.Proofs.System.Malformed
import TerminalGateway.Proofs.System.Moves
import TerminalGateway.Proofs.System.Order
import TerminalGateway.Proofs.System.Outline
import TerminalGateway.Proofs.System.Overflow
import TerminalGateway.Proofs.System.Path
import TerminalGateway.Proofs.System.Pulse
import TerminalGateway.Proofs.System.Requests
import TerminalGateway.Proofs.System.Retries
import TerminalGateway.Proofs.System.Shift
import TerminalGateway.Proofs.System.Speech
import TerminalGateway.Proofs.System.Tally
import TerminalGateway.Proofs.System.Tickers
import TerminalGateway.Proofs.System.Tidings
import TerminalGateway.Proofs.System.Utterance
import TerminalGateway.Proofs.System.Vigil
import TerminalGateway.Proofs.System.Writing
import TerminalGateway.Proofs.Text.Digits
import TerminalGateway.Proofs.Text.Encoding
import TerminalGateway.Proofs.Transaction.Books
import TerminalGateway.Proofs.Transaction.Echo
import TerminalGateway.Proofs.Transaction.Expiry
import TerminalGateway.Proofs.Transaction.Ledger
import TerminalGateway.Proofs.Transaction.Outcome
import TerminalGateway.Proofs.Transaction.Refusal
import TerminalGateway.Proofs.Transaction.Ruling
import TerminalGateway.Proofs.Transport.Lines
import TerminalGateway.Proofs.Transport.Protocol
import TerminalGateway.Proofs.Transport.Wire
