import ErDiagram.Aggregation.Collected
import ErDiagram.Aggregation.Fetch
import ErDiagram.Aggregation.Work
import ErDiagram.Context
import ErDiagram.Diagram.Assembly
import ErDiagram.Diagram.Layout
import ErDiagram.Diagram.Model
import ErDiagram.Diagram.Network
import ErDiagram.Diagram.Relationships
import ErDiagram.Fault
import ErDiagram.Json.Finite
import ErDiagram.Json.Reader
import ErDiagram.Json.Value
import ErDiagram.Json.Writer
import ErDiagram.Metadata.Raw
import ErDiagram.Metadata.Table
import ErDiagram.Number.Angle
import ErDiagram.Number.Binary64
import ErDiagram.Number.Decimal
import ErDiagram.Number.Rounding
import ErDiagram.Records
import ErDiagram.Sample.Catalog
import ErDiagram.Sample.Shop
import ErDiagram.Service.Api
import ErDiagram.Service.Body
import ErDiagram.Service.Message
import ErDiagram.Service.Route
import ErDiagram.Session.Command
import ErDiagram.Session.Schedule
import ErDiagram.Session.State
import ErDiagram.Settings
import ErDiagram.Signal.Bus
import ErDiagram.Signal.Switchboard
import ErDiagram.Signal.Topic
import ErDiagram.Source.Document
import ErDiagram.Source.Kind
import ErDiagram.Source.Remote
import ErDiagram.Source.Reply
import ErDiagram.Source.Script
import ErDiagram.Text.Base64
import ErDiagram.Text.Blank
import ErDiagram.Text.Cased
import ErDiagram.Text.CodePoint
import ErDiagram.Text.CodeString
import ErDiagram.Text.CodeTable
import ErDiagram.Text.DecimalDigit
import ErDiagram.Text.Encoding
import ErDiagram.Text.Hexadecimal
import ErDiagram.Text.Lowercase
import ErDiagram.Text.Marks
import ErDiagram.Text.Printable
import ErDiagram.Text.Quoted
import ErDiagram.Text.Split
import ErDiagram.Text.Utf8
import ErDiagram.Uri.Address
import ErDiagram.Uri.Domain.Composition
import ErDiagram.Uri.Domain.Context
import ErDiagram.Uri.Domain.Direction
import ErDiagram.Uri.Domain.Name
import ErDiagram.Uri.Domain.NameFault
import ErDiagram.Uri.Domain.Permitted
import ErDiagram.Uri.Domain.Punycode
import ErDiagram.Uri.Escape
import ErDiagram.Uri.Fault
import ErDiagram.Uri.Host
import ErDiagram.Uri.Path
import ErDiagram.Uri.Port
import ErDiagram.Uri.Reach
import ErDiagram.Uri.Segment
import ErDiagram.Validation.Checked
import ErDiagram.Validation.Coercion
import ErDiagram.Validation.Numeral
import ErDiagram.View.Listeners
import ErDiagram.View.Snapshot
import ErDiagram.View.State
import ErDiagram.Proofs.Aggregation.Prospects
import ErDiagram.Proofs.Aggregation.Sequential
import ErDiagram.Proofs.Diagram.Placing
import ErDiagram.Proofs.View.Offer
import ErDiagram.Proofs.Aggregation.Answers
import ErDiagram.Proofs.Session.Agreement
import ErDiagram.Proofs.Session.Console
import ErDiagram.Proofs.Session.Loading
import ErDiagram.Proofs.Diagram.Assembled
import ErDiagram.Proofs.Diagram.Linked
import ErDiagram.Proofs.Session.Contents
import ErDiagram.Proofs.Session.Origin
import ErDiagram.Proofs.Diagram.Explained
import ErDiagram.Proofs.Session.Consistency
import ErDiagram.Proofs.Session.Queries
import ErDiagram.Proofs.Session.Databases
import ErDiagram.Proofs.Session.Solitary
import ErDiagram.Proofs.Aggregation.Outcomes
import ErDiagram.Proofs.Diagram.Degraded
import ErDiagram.Proofs.Session.Isolation
import ErDiagram.Proofs.Text.Utf8
import ErDiagram.Proofs.Uri.Segment
import ErDiagram.Proofs.Uri.Resolution
import ErDiagram.Proofs.Source.Requests
import ErDiagram.Proofs.Signal.Delivery
import ErDiagram.Proofs.Aggregation.Accounting
import ErDiagram.Proofs.Source.Entries
import ErDiagram.Proofs.Source.Prompt
import ErDiagram.Proofs.Source.Served
import ErDiagram.Proofs.Source.Interchange
import ErDiagram.Proofs.Diagram.Standard
import ErDiagram.Proofs.Session.Positions
import ErDiagram.Proofs.Session.Subscribed
import ErDiagram.Proofs.Session.Triggers
import ErDiagram.Proofs.Service.Overlapping
import ErDiagram.Proofs.Session.Resting
import ErDiagram.Proofs.Service.Serving
import ErDiagram.Proofs.Service.Restart
import ErDiagram.Proofs.Signal.Turns
import ErDiagram.Proofs.Signal.Course
import ErDiagram.Proofs.Signal.UpToDate
import ErDiagram.Proofs.Diagram.Listing
import ErDiagram.Proofs.Diagram.Reordered
import ErDiagram.Proofs.Signal.Handles
import ErDiagram.Proofs.Signal.Records
import ErDiagram.Proofs.Aggregation.Timetable
import ErDiagram.Proofs.Session.Relayout
import ErDiagram.Proofs.Computation
import ErDiagram.Proofs.Source.Classification
import ErDiagram.Proofs.Source.Promise
import ErDiagram.Proofs.Sample.Listing
import ErDiagram.Proofs.Validation.Rereading
import ErDiagram.Proofs.Validation.Counted
import ErDiagram.Proofs.Number.Whole
import ErDiagram.Proofs.Number.Root
import ErDiagram.Proofs.Diagram.Rows
import ErDiagram.Proofs.Session.Showings
import ErDiagram.Proofs.Metadata.Derived
import ErDiagram.Proofs.Uri.Spelling
import ErDiagram.Proofs.Source.Reopening
import ErDiagram.Proofs.View.Registrations
import ErDiagram.Proofs.Session.Failures
