import HostConsole.Text.Lower
import HostConsole.Text.AlphanumericTable
import HostConsole.Decimal.Shortest
import HostConsole.Decimal.Read
import HostConsole.Value.Parameter
import HostConsole.Value.Arguments
import HostConsole.Log.Capture
import HostConsole.Dispatch
import HostConsole.Telemetry.Meter
import HostConsole.Toml.Scalar
import HostConsole.Toml.Table
import HostConsole.Toml.Document
import HostConsole.Settings.Load
import HostConsole.Options
import HostConsole.Demo.Host
import HostConsole.Session.Basic
import HostConsole.Program
import HostConsole.Main
import HostConsole.Proofs.Text.Lower
import HostConsole.Proofs.Log.Readers
import HostConsole.Proofs.Catalog.Registration
import HostConsole.Proofs.Catalog.Invariant
import HostConsole.Proofs.Catalog.Selection
import HostConsole.Proofs.Dispatch.Traced
import HostConsole.Proofs.Dispatch.Transaction
import HostConsole.Proofs.Catalog.Origin
import HostConsole.Proofs.Dispatch.Spelling
import HostConsole.Proofs.Value.Grammar
import HostConsole.Proofs.Dispatch.Arguments
import HostConsole.Proofs.Catalog.Binding
import HostConsole.Proofs.Log.Batches
import HostConsole.Proofs.Session.Printed
import HostConsole.Proofs.Session.Precedence
import HostConsole.Proofs.Session.Drivers
import HostConsole.Proofs.Binary.Rounding
import HostConsole.Proofs.Decimal.Digits
import HostConsole.Proofs.Decimal.ReadBack
import HostConsole.Proofs.Value.Display
import HostConsole.Proofs.Dispatch.Replay
import HostConsole.Proofs.Catalog.HelpText
import HostConsole.Proofs.Dispatch.Help
import HostConsole.Proofs.Graph.Picture
import HostConsole.Proofs.Console.Frames
import HostConsole.Proofs.Demo.Worlds
import HostConsole.Proofs.Binary.Sums
import HostConsole.Proofs.Binary.Order
import HostConsole.Proofs.Binary.Widening
import HostConsole.Proofs.Telemetry.Blocks
import HostConsole.Proofs.Text.Keywords
import HostConsole.Proofs.Text.Tokens
import HostConsole.Proofs.Value.Declaration
import HostConsole.Proofs.Graph.Stars
import HostConsole.Proofs.Graph.Samples
import HostConsole.Proofs.Console.Keys
import HostConsole.Proofs.Console.Limits
import HostConsole.Proofs.Catalog.Listing
import HostConsole.Proofs.Dispatch.Lookalikes
import HostConsole.Proofs.Value.Positions
import HostConsole.Proofs.Catalog.ReceiverNames
import HostConsole.Proofs.Settings.Reservations
import HostConsole.Proofs.Program.Start
