import Parley.Action
import Parley.Capability
import Parley.Complexity.Analysis
import Parley.Complexity.Search
import Parley.Complexity.Signals
import Parley.Conversation.Interpreter
import Parley.Conversation.Reply
import Parley.Conversation.State
import Parley.Decimal.Binary64
import Parley.Decimal.Layout
import Parley.Decimal.Rounding
import Parley.Decimal.Shortest
import Parley.Digest.Blocks
import Parley.Digest.Md5
import Parley.Digest.Sha1
import Parley.Digest.Sha256
import Parley.Document.Reader
import Parley.Document.Writer
import Parley.Engine
import Parley.Enhanced.Answer
import Parley.Enhanced.Capture
import Parley.Enhanced.Engine
import Parley.Enhanced.Navigation
import Parley.Fault
import Parley.Http
import Parley.Number
import Parley.Number.Power
import Parley.Outcomes.Aggregate
import Parley.Outcomes.Collector
import Parley.Outcomes.Percentile
import Parley.Outcomes.Window
import Parley.Pattern.Node
import Parley.Pattern.Reader
import Parley.Pattern.Search
import Parley.Proofs.Action.Endings
import Parley.Proofs.Action.Lawful
import Parley.Proofs.Action.Pact
import Parley.Proofs.Action.Prompt
import Parley.Proofs.Action.Turns
import Parley.Proofs.Complexity.Depth
import Parley.Proofs.Complexity.Heights
import Parley.Proofs.Complexity.Longest
import Parley.Proofs.Conversation.Account
import Parley.Proofs.Conversation.Branching
import Parley.Proofs.Conversation.Documents
import Parley.Proofs.Conversation.Frame
import Parley.Proofs.Conversation.Given
import Parley.Proofs.Conversation.Resumption
import Parley.Proofs.Conversation.Safety
import Parley.Proofs.Conversation.Storing
import Parley.Proofs.Conversation.Trail
import Parley.Proofs.Conversation.Unread
import Parley.Proofs.Conversation.Unspoken
import Parley.Proofs.Conversation.Whole
import Parley.Proofs.Document.Canonical
import Parley.Proofs.Document.Reader
import Parley.Proofs.Document.Unambiguous
import Parley.Proofs.Enhanced.Attempts
import Parley.Proofs.Enhanced.Backward
import Parley.Proofs.Enhanced.Echo
import Parley.Proofs.Enhanced.First
import Parley.Proofs.Enhanced.Forms
import Parley.Proofs.Enhanced.Keywords
import Parley.Proofs.Enhanced.Phrases
import Parley.Proofs.Enhanced.Plain
import Parley.Proofs.Enhanced.Speakers
import Parley.Proofs.Enhanced.Walks
import Parley.Proofs.Outcomes.Clocks
import Parley.Proofs.Outcomes.Recent
import Parley.Proofs.Outcomes.Window
import Parley.Proofs.Recovery.Dispatched
import Parley.Proofs.Recovery.Listing
import Parley.Proofs.Recovery.Preserved
import Parley.Proofs.Recovery.Recorded
import Parley.Proofs.Recovery.Replay
import Parley.Proofs.Recovery.Report
import Parley.Proofs.Recovery.Retries
import Parley.Proofs.Routing.Desk
import Parley.Proofs.Routing.Monotone
import Parley.Proofs.Routing.Rules
import Parley.Proofs.Routing.Transparent
import Parley.Proofs.Routing.Upkeep
import Parley.Proofs.Service.Mapped
import Parley.Proofs.Session.Census
import Parley.Proofs.Session.Exclusion
import Parley.Proofs.Session.Hall
import Parley.Proofs.Session.InTurn
import Parley.Proofs.Session.Isolation
import Parley.Proofs.Session.Passage
import Parley.Proofs.Session.Queue
import Parley.Proofs.Stages.Claims
import Parley.Proofs.Stages.Protection
import Parley.Proofs.Storage.Contents
import Parley.Proofs.Storage.Faces
import Parley.Proofs.Storage.Isolation
import Parley.Proofs.Storage.Rivals
import Parley.Proofs.Storage.Shelf
import Parley.Proofs.Storage.Swapping
import Parley.Proofs.Storage.Texts
import Parley.Proofs.Template.Accepted
import Parley.Proofs.Template.Activation
import Parley.Proofs.Template.Refusals
import Parley.Proofs.Template.Reread
import Parley.Proofs.Template.Served
import Parley.Proofs.Template.Tests
import Parley.Proofs.Time.Calendar
import Parley.Proofs.Time.Reader
import Parley.Proofs.Time.Seconds
import Parley.Proofs.Turn.Advances
import Parley.Proofs.Turn.Conduct
import Parley.Proofs.Turn.Confined
import Parley.Proofs.Turn.Errands
import Parley.Proofs.Turn.Failures
import Parley.Proofs.Turn.Faults
import Parley.Proofs.Turn.Figures
import Parley.Proofs.Turn.Home
import Parley.Proofs.Turn.Lineage
import Parley.Proofs.Turn.Once
import Parley.Proofs.Turn.Quiet
import Parley.Proofs.Turn.Regular
import Parley.Proofs.Turn.Serial
import Parley.Proofs.Turn.Silent
import Parley.Proofs.Turn.Stored
import Parley.Proofs.Turn.Story
import Parley.Proofs.Turn.Tidy
import Parley.Proofs.Turn.Whole
import Parley.Proofs.Unicode.Casing
import Parley.Proofs.Unicode.Margins
import Parley.Proofs.Unicode.Words
import Parley.Proofs.Value.Numerals
import Parley.Record.Blueprint
import Parley.Record.Checked
import Parley.Record.Conversation
import Parley.Record.Field
import Parley.Record.Metrics
import Parley.Record.Shape
import Parley.Record.Source
import Parley.Record.Turn
import Parley.Recovery.Event
import Parley.Recovery.Fallback
import Parley.Recovery.Guard
import Parley.Recovery.Retry
import Parley.Recovery.Timings
import Parley.Rehearsal.Desk
import Parley.Rehearsal.Setup
import Parley.Rehearsal.Stage
import Parley.Rehearsal.Workers
import Parley.Routing.Cache
import Parley.Routing.Policy
import Parley.Routing.Router
import Parley.Scalar
import Parley.Schedule
import Parley.Service.Call
import Parley.Service.Query
import Parley.Service.Routes
import Parley.Session.Locks
import Parley.Settings
import Parley.Stages.Dispatcher
import Parley.Stages.Ledger
import Parley.Storage.Archive
import Parley.Storage.Memory
import Parley.Storage.Remote
import Parley.Storage.Saved
import Parley.Storage.Server
import Parley.Storage.Store
import Parley.Table
import Parley.Template.Graph
import Parley.Template.Placeholder
import Parley.Template.Predicate
import Parley.Template.Reader
import Parley.Template.Registry
import Parley.Template.Writer
import Parley.Time.Calendar
import Parley.Time.Clock
import Parley.Time.Moment
import Parley.Time.Reader
import Parley.Time.Seconds
import Parley.Time.Stamp
import Parley.Turn.Blueprint
import Parley.Turn.Inbound
import Parley.Turn.Phases
import Parley.Turn.Processor
import Parley.Turn.Together
import Parley.Unicode.CaseMap
import Parley.Unicode.Casing
import Parley.Unicode.Identifier
import Parley.Unicode.Letter
import Parley.Unicode.Names
import Parley.Unicode.Numeric
import Parley.Unicode.Printable
import Parley.Unicode.Ranges
import Parley.Unicode.Words
import Parley.Value
import Parley.Value.Arithmetic
import Parley.Value.Display
import Parley.Value.Integer
import Parley.Value.Limits
import Parley.Value.RealText
import Parley.World
