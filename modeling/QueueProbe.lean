import QueueProbe.Bench.Awaiting
import QueueProbe.Bench.Channel
import QueueProbe.Bench.Consuming
import QueueProbe.Bench.Handling
import QueueProbe.Bench.Publishing
import QueueProbe.Bench.Sharing
import QueueProbe.Bench.State
import QueueProbe.Bench.Work
import QueueProbe.Binary64.Basic
import QueueProbe.Binary64.Decimal
import QueueProbe.Binary64.Reading
import QueueProbe.Broker.Calls
import QueueProbe.Broker.State
import QueueProbe.Codec
import QueueProbe.Failure
import QueueProbe.FailurePolicy
import QueueProbe.Files
import QueueProbe.Journal.Level
import QueueProbe.Journal.Line
import QueueProbe.Journal.Report
import QueueProbe.Journal.Session
import QueueProbe.Journal.Spec
import QueueProbe.Json.Number
import QueueProbe.Json.Shape
import QueueProbe.Json.Tree
import QueueProbe.Json.Value
import QueueProbe.Lock
import QueueProbe.Message
import QueueProbe.Outcome
import QueueProbe.Pattern.Basic
import QueueProbe.Pattern.Brackets
import QueueProbe.Pattern.Escape
import QueueProbe.Pattern.Matching
import QueueProbe.Pattern.Meaning
import QueueProbe.Pattern.Property
import QueueProbe.Pattern.Reader
import QueueProbe.Pattern.Size
import QueueProbe.Pattern.Tree
import QueueProbe.Polling.Backoff
import QueueProbe.Polling.Eventually
import QueueProbe.Polling.Matcher
import QueueProbe.Polling.Policy
import QueueProbe.Polling.Task
import QueueProbe.Polling.Timeout
import QueueProbe.Settings.Basic
import QueueProbe.Settings.Loading
import QueueProbe.Settings.Reading
import QueueProbe.Span
import QueueProbe.Store
import QueueProbe.Table
import QueueProbe.Text.Blank
import QueueProbe.Text.Case
import QueueProbe.Text.Category
import QueueProbe.Text.Hex
import QueueProbe.Text.Hidden
import QueueProbe.Text.Numeral
import QueueProbe.Text.Quoted
import QueueProbe.Text.Runs
import QueueProbe.Text.Script
import QueueProbe.Text.Utf8
import QueueProbe.Toml.Basic
import QueueProbe.Toml.Document
import QueueProbe.Toml.Moment
import QueueProbe.Toml.Scalar
import QueueProbe.Proofs.Broker.Contents
import QueueProbe.Proofs.Broker.Conservation
import QueueProbe.Proofs.Broker.Tags
import QueueProbe.Proofs.Broker.Settlement
import QueueProbe.Proofs.Broker.Lanes
import QueueProbe.Proofs.Broker.Circling
import QueueProbe.Proofs.Broker.SendOrder
import QueueProbe.Proofs.Broker.Restoring
import QueueProbe.Proofs.Broker.Prefetch
import QueueProbe.Proofs.Broker.Answers
import QueueProbe.Proofs.Broker.Apart
import QueueProbe.Proofs.Broker.Anonymous
import QueueProbe.Proofs.Broker.Counts
import QueueProbe.Proofs.Consumer.Course
import QueueProbe.Proofs.Consumer.Serving
import QueueProbe.Proofs.Consumer.Drain
import QueueProbe.Proofs.Consumer.Endings
import QueueProbe.Proofs.Consumer.Handles
import QueueProbe.Proofs.Consumer.Limits
import QueueProbe.Proofs.Consumer.Stalling
import QueueProbe.Proofs.Polling.Attempts
import QueueProbe.Proofs.Polling.Deadline
import QueueProbe.Proofs.Polling.Flavours
import QueueProbe.Proofs.Polling.Growth
import QueueProbe.Proofs.Binary64.Powers
import QueueProbe.Proofs.Polling.Reaching
import QueueProbe.Proofs.Publishing.Crew
import QueueProbe.Proofs.Publishing.Claiming
import QueueProbe.Proofs.Publishing.Schedule
import QueueProbe.Proofs.Publishing.Falls
import QueueProbe.Proofs.Publishing.Amid
import QueueProbe.Proofs.Handler.AtLeastOnce
import QueueProbe.Proofs.Handler.Lifecycle
import QueueProbe.Proofs.Handler.Closing
import QueueProbe.Proofs.Handler.Pipeline
import QueueProbe.Proofs.Handler.Replay
import QueueProbe.Proofs.Bench.Folding
import QueueProbe.Proofs.Handler.Hands
import QueueProbe.Proofs.Text.Utf8
import QueueProbe.Proofs.Handler.Lasting
import QueueProbe.Proofs.Handler.Counting
import QueueProbe.Proofs.Handler.Poisoning
import QueueProbe.Proofs.Handler.BuiltOnce
import QueueProbe.Proofs.Settings.Validity
import QueueProbe.Proofs.Handler.Configured
import QueueProbe.Proofs.Json.RoundTrip
import QueueProbe.Proofs.Journal.Lines
