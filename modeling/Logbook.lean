import Logbook.Calendar
import Logbook.Command
import Logbook.Command.Diagnostics
import Logbook.Command.Directive
import Logbook.Command.Filter
import Logbook.Command.Options
import Logbook.Draft
import Logbook.Event
import Logbook.Fault
import Logbook.Gate
import Logbook.Json.Number
import Logbook.Json.Problem
import Logbook.Json.Shape
import Logbook.Json.Token
import Logbook.Json.Tree
import Logbook.Json.Value
import Logbook.JsonLines
import Logbook.Level
import Logbook.Line
import Logbook.Location
import Logbook.Logger
import Logbook.Main
import Logbook.Members
import Logbook.Number.Binary
import Logbook.Number.Decimal
import Logbook.Number.Reading
import Logbook.Palette
import Logbook.Pattern
import Logbook.Pattern.Brackets
import Logbook.Pattern.Escape
import Logbook.Pattern.Feasible
import Logbook.Pattern.Reading
import Logbook.Record
import Logbook.Record.Wire
import Logbook.Registry
import Logbook.Session
import Logbook.Session.Drafting
import Logbook.Session.Receiving
import Logbook.Session.Statement
import Logbook.Settings
import Logbook.Settings.Conversion
import Logbook.Settings.File
import Logbook.Settings.KeyPath
import Logbook.Settings.Node
import Logbook.Settings.Problem
import Logbook.Settings.Source
import Logbook.Settings.Wire
import Logbook.Text.Alphanumeric
import Logbook.Text.Blank
import Logbook.Text.Cased
import Logbook.Text.Hexadecimal
import Logbook.Text.Layout
import Logbook.Text.Lower
import Logbook.Text.Pieces
import Logbook.Text.Quoted
import Logbook.Text.Slice
import Logbook.Text.Unprinted
import Logbook.Text.Utf8
import Logbook.Toml.Line
import Logbook.Toml.Moment
import Logbook.Toml.Scalar
import Logbook.Toml.Table
import Logbook.Toml.Token
import Logbook.Transport
import Logbook.Writer
import Logbook.Writer.Memory
import Logbook.Proofs.Except
import Logbook.Proofs.Chronicle
import Logbook.Proofs.Threads
import Logbook.Proofs.Threads.History
import Logbook.Proofs.Threads.Order
import Logbook.Proofs.Json.Numbers
import Logbook.Proofs.Json.RoundTrip
import Logbook.Proofs.Utf8
import Logbook.Proofs.RecordWire
import Logbook.Proofs.Columns
import Logbook.Proofs.Origins
import Logbook.Proofs.Tape
import Logbook.Proofs.Tape.Memory
import Logbook.Proofs.JsonLines.Lines
import Logbook.Proofs.JsonLines.Quota
import Logbook.Proofs.JsonLines.RoundTrip
import Logbook.Proofs.Json.Place
import Logbook.Proofs.Json.Balance
import Logbook.Proofs.JsonLines.Torn
import Logbook.Proofs.Gates.Nanos
import Logbook.Proofs.Gates.Visits
import Logbook.Proofs.Gates.Firings
import Logbook.Proofs.Gates.Arrivals
import Logbook.Proofs.Gates.Metering
import Logbook.Proofs.Linearization
import Logbook.Proofs.Registry.Threads
import Logbook.Proofs.Registry.Steps
import Logbook.Proofs.Registry.Slot
import Logbook.Proofs.Registry.Order
import Logbook.Proofs.Desk
import Logbook.Proofs.Desk.Drafts
import Logbook.Proofs.Desk.Outputs
import Logbook.Proofs.Desk.LineBreaks
import Logbook.Proofs.Desk.Mishaps
import Logbook.Proofs.Session
import Logbook.Proofs.Session.Statements
import Logbook.Proofs.Session.Channels
import Logbook.Proofs.Threads.Stretches
import Logbook.Proofs.Threads.Blank
import Logbook.Proofs.Threads.Lines
import Logbook.Proofs.JsonLines.SharedSink
import Logbook.Proofs.JsonLines.SharedOrder
import Logbook.Proofs.Command.Input
import Logbook.Proofs.Command.Report
import Logbook.Proofs.Settings.Reading
import Logbook.Proofs.Settings.Layers
import Logbook.Proofs.Settings.Overrides
import Logbook.Proofs.Settings.Defaults
import Logbook.Proofs.Registry.Renewal
import Logbook.Proofs.Json.Fields
import Logbook.Proofs.Settings.Wire
import Logbook.Proofs.Session.Reception
import Logbook.Proofs.Line
import Logbook.Proofs.Transport
import Logbook.Proofs.Gates.Counting
import Logbook.Proofs.Presentation
import Logbook.Proofs.Line.Order
import Logbook.Proofs.Plans
import Logbook.Proofs.Settings.LevelTexts
