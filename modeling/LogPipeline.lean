import LogPipeline.Level
import LogPipeline.Pattern.Lexer
import LogPipeline.Pattern.Grammar
import LogPipeline.Pattern.Abbreviation
import LogPipeline.Decimal.Notation
import LogPipeline.Decimal.Reading
import LogPipeline.Json.Reader
import LogPipeline.Json.Printer
import LogPipeline.Json.Record
import LogPipeline.Time.Instant
import LogPipeline.Time.DateStyle
import LogPipeline.Regex.Reader
import LogPipeline.Regex.Replace
import LogPipeline.Ink
import LogPipeline.Event.Json
import LogPipeline.Context
import LogPipeline.Dispatcher.Work
import LogPipeline.Sifting
import LogPipeline.Tracker.Settings
import LogPipeline.Pattern.Layout
import LogPipeline.Metrics
import LogPipeline.Console
import LogPipeline.Logger
import LogPipeline.Installation.Control
import LogPipeline.Tracker.Buffers
import LogPipeline.Tracker.Labels
import LogPipeline.Pattern.Form
import LogPipeline.Trial.Appenders
import LogPipeline.Trial.Dispatching
import LogPipeline.Trial.Logging
import LogPipeline.Trial.Sifting
import LogPipeline.Trial.Tracking
import LogPipeline.Proofs.Pattern.Derivation
import LogPipeline.Proofs.Pattern.Order
import LogPipeline.Proofs.Pattern.Refusal
import LogPipeline.Proofs.Pattern.Printing
import LogPipeline.Proofs.Pattern.RoundTrip
import LogPipeline.Proofs.Pattern.Juxtaposition
import LogPipeline.Proofs.Dispatcher.Steps
import LogPipeline.Proofs.Dispatcher.Course
import LogPipeline.Proofs.Dispatcher.Accounting
import LogPipeline.Proofs.Dispatcher.Tracing
import LogPipeline.Proofs.Dispatcher.Delivery
import LogPipeline.Proofs.Pattern.Interpretation
import LogPipeline.Proofs.Pattern.Diagnosis
import LogPipeline.Proofs.Tracker.Entries
import LogPipeline.Proofs.Tracker.Steps
import LogPipeline.Proofs.Tracker.Conservation
import LogPipeline.Proofs.Sifting.Mirror
import LogPipeline.Proofs.Sifting.Children
import LogPipeline.Proofs.Sifting.Conduct
import LogPipeline.Proofs.Sifting.Family
import LogPipeline.Proofs.Sifting.Passage
import LogPipeline.Proofs.Sifting.Receipt
import LogPipeline.Proofs.Sifting.Custody
import LogPipeline.Proofs.Pattern.Separation
import LogPipeline.Proofs.Dispatcher.Shedding
import LogPipeline.Proofs.Dispatcher.Lifecycle
import LogPipeline.Proofs.Appender.Isolation
import LogPipeline.Proofs.Pattern.Throwables
import LogPipeline.Proofs.Tracker.Sweeping
import LogPipeline.Proofs.Pattern.Width
import LogPipeline.Proofs.Status.Retention
import LogPipeline.Proofs.Status.Course
import LogPipeline.Proofs.Status.Telling
import LogPipeline.Proofs.Status.Journal
import LogPipeline.Proofs.Time.Showing
import LogPipeline.Proofs.Dispatcher.Handover
import LogPipeline.Proofs.Pattern.Shortening
import LogPipeline.Proofs.Event.Causes
import LogPipeline.Proofs.Logger.Passage
import LogPipeline.Proofs.Dispatcher.Alerts
import LogPipeline.Proofs.Event.RoundTrip
import LogPipeline.Proofs.Tracker.Spacing
import LogPipeline.Proofs.Pattern.LastSegment
import LogPipeline.Proofs.Pattern.Surface
import LogPipeline.Proofs.Pattern.Backslashes
