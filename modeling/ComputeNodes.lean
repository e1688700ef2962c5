import ComputeNodes.Calendar
import ComputeNodes.Entries
import ComputeNodes.Error
import ComputeNodes.Error.Fault
import ComputeNodes.Error.Kind
import ComputeNodes.Error.Made
import ComputeNodes.Error.Signature
import ComputeNodes.Listing.Page
import ComputeNodes.Listing.Paged
import ComputeNodes.Logging.Entry
import ComputeNodes.Logging.Level
import ComputeNodes.Logging.Log
import ComputeNodes.Logging.Loggers
import ComputeNodes.Logging.Path
import ComputeNodes.Logging.Record
import ComputeNodes.Logging.Sinks
import ComputeNodes.Logging.Written
import ComputeNodes.Markup.Color
import ComputeNodes.Markup.Escape
import ComputeNodes.Markup.Expression
import ComputeNodes.Markup.ExpressionFault
import ComputeNodes.Markup.Grammar
import ComputeNodes.Markup.Interpolation
import ComputeNodes.Markup.Literal
import ComputeNodes.Markup.Marked
import ComputeNodes.Markup.Reading
import ComputeNodes.Markup.Style
import ComputeNodes.Markup.Tag
import ComputeNodes.Markup.Token
import ComputeNodes.Memo
import ComputeNodes.Message.Layout
import ComputeNodes.Message.Part
import ComputeNodes.Message.Pattern
import ComputeNodes.Message.Percent
import ComputeNodes.Message.ValueType
import ComputeNodes.Node.Credentials
import ComputeNodes.Node.Group
import ComputeNodes.Node.Id
import ComputeNodes.Node.Template
import ComputeNodes.Number.Binary
import ComputeNodes.Number.Numeral
import ComputeNodes.Number.Rounding
import ComputeNodes.Number.Seconds
import ComputeNodes.Number.Shortest
import ComputeNodes.Number.Written
import ComputeNodes.Proofs.Listing.Chain
import ComputeNodes.Proofs.Listing.Demand
import ComputeNodes.Proofs.Listing.Pace
import ComputeNodes.Proofs.Listing.Paged
import ComputeNodes.Proofs.Listing.SideBySide
import ComputeNodes.Proofs.Listing.Walk
import ComputeNodes.Proofs.Logging.Delivery
import ComputeNodes.Proofs.Logging.Registry
import ComputeNodes.Proofs.Logging.Silence
import ComputeNodes.Proofs.Logging.Use
import ComputeNodes.Proofs.Logging.Work
import ComputeNodes.Proofs.Memo
import ComputeNodes.Proofs.Node.Credentials
import ComputeNodes.Proofs.Node.Group
import ComputeNodes.Proofs.Node.Id
import ComputeNodes.Proofs.Number.Double
import ComputeNodes.Proofs.Provider.Await
import ComputeNodes.Proofs.Provider.Body
import ComputeNodes.Proofs.Provider.Candid
import ComputeNodes.Proofs.Provider.Create
import ComputeNodes.Proofs.Provider.Deadline
import ComputeNodes.Proofs.Provider.Destroy
import ComputeNodes.Proofs.Provider.Drift
import ComputeNodes.Proofs.Provider.Failure
import ComputeNodes.Proofs.Provider.Login
import ComputeNodes.Proofs.Provider.Look
import ComputeNodes.Proofs.Provider.NewNode
import ComputeNodes.Proofs.Provider.Nodes
import ComputeNodes.Proofs.Provider.Outcome
import ComputeNodes.Proofs.Provider.Polling
import ComputeNodes.Proofs.Provider.Project
import ComputeNodes.Proofs.Provider.Refusal
import ComputeNodes.Proofs.Provider.Rereads
import ComputeNodes.Proofs.Provider.Selection
import ComputeNodes.Proofs.Provider.Task
import ComputeNodes.Proofs.Provider.Verdict
import ComputeNodes.Proofs.Provider.Watch
import ComputeNodes.Proofs.Provider.Watch.Address
import ComputeNodes.Proofs.Provider.Watch.Done
import ComputeNodes.Proofs.Provider.Watch.Furthest
import ComputeNodes.Proofs.Provider.Watch.Pending
import ComputeNodes.Proofs.Provider.Watch.Trail
import ComputeNodes.Proofs.Resource.Distinct
import ComputeNodes.Proofs.Resource.Uri
import ComputeNodes.Proofs.Run.Act
import ComputeNodes.Proofs.Run.Attempts
import ComputeNodes.Proofs.Run.Deadline
import ComputeNodes.Proofs.Run.Image
import ComputeNodes.Proofs.Run.Law
import ComputeNodes.Proofs.Run.Poll
import ComputeNodes.Proofs.Run.Tape
import ComputeNodes.Proofs.Run.Window
import ComputeNodes.Proofs.Service.Account
import ComputeNodes.Proofs.Service.AsPending
import ComputeNodes.Proofs.Service.Client
import ComputeNodes.Proofs.Service.Insert
import ComputeNodes.Proofs.Service.Law
import ComputeNodes.Proofs.Service.Origin
import ComputeNodes.Proofs.Service.Pages
import ComputeNodes.Proofs.Service.Search
import ComputeNodes.Proofs.Service.Texts
import ComputeNodes.Proofs.Settings.Admission
import ComputeNodes.Proofs.Settings.Document
import ComputeNodes.Proofs.Settings.Files
import ComputeNodes.Proofs.Value.Merge
import ComputeNodes.Provider.Basic
import ComputeNodes.Provider.Create
import ComputeNodes.Provider.Lookup
import ComputeNodes.Provider.Nodes
import ComputeNodes.Provider.Offers
import ComputeNodes.Resource.Catalogue
import ComputeNodes.Resource.Distinct
import ComputeNodes.Resource.Instance
import ComputeNodes.Resource.Operation
import ComputeNodes.Resource.Uri
import ComputeNodes.Run.Attempts
import ComputeNodes.Run.Poll
import ComputeNodes.Run.Session
import ComputeNodes.Service.Account
import ComputeNodes.Service.Client
import ComputeNodes.Service.Fields
import ComputeNodes.Service.Insert
import ComputeNodes.Service.Loose
import ComputeNodes.Service.Message
import ComputeNodes.Service.Request
import ComputeNodes.Service.Script
import ComputeNodes.Service.Texts
import ComputeNodes.Service.Typed
import ComputeNodes.Service.Wire
import ComputeNodes.Settings.Basic
import ComputeNodes.Settings.Files
import ComputeNodes.Settings.Identity
import ComputeNodes.Text.Blank
import ComputeNodes.Text.Digit
import ComputeNodes.Text.Letter
import ComputeNodes.Text.LetterCase
import ComputeNodes.Text.Printable
import ComputeNodes.Text.Quoted
import ComputeNodes.Text.Split
import ComputeNodes.Text.Surrogate
import ComputeNodes.Text.Words
import ComputeNodes.Toml.Document
import ComputeNodes.Toml.Quotation
import ComputeNodes.Toml.Scalar
import ComputeNodes.Toml.Scan
import ComputeNodes.Value
import ComputeNodes.Value.Alike
import ComputeNodes.Value.Fields
import ComputeNodes.Value.Merge
import ComputeNodes.Value.Whole
import ComputeNodes.Value.Writable
