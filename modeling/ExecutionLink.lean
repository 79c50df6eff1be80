import ExecutionLink.Builder
import ExecutionLink.Bytes.BigEndian
import ExecutionLink.Bytes.Fixed
import ExecutionLink.Bytes.Hex
import ExecutionLink.Bytes.Sha256
import ExecutionLink.Channel.Basic
import ExecutionLink.Channel.Call
import ExecutionLink.Channel.Live
import ExecutionLink.Channel.Registry
import ExecutionLink.Channel.Stub
import ExecutionLink.Clock
import ExecutionLink.Configuration
import ExecutionLink.Connection
import ExecutionLink.Delegate
import ExecutionLink.Endpoint
import ExecutionLink.Engine
import ExecutionLink.Error
import ExecutionLink.Http
import ExecutionLink.Http.Target
import ExecutionLink.Http.Wire
import ExecutionLink.Json.Fault
import ExecutionLink.Json.Format
import ExecutionLink.Json.Literal
import ExecutionLink.Json.Number
import ExecutionLink.Json.Token
import ExecutionLink.Json.Tree
import ExecutionLink.Json.Value
import ExecutionLink.Log
import ExecutionLink.Log.Filter
import ExecutionLink.Main
import ExecutionLink.Metrics.CounterFamily
import ExecutionLink.Metrics.CounterMatrix
import ExecutionLink.Metrics.Interval
import ExecutionLink.Metrics.Metered
import ExecutionLink.Metrics.Outcome
import ExecutionLink.Metrics.Page
import ExecutionLink.Metrics.Registry
import ExecutionLink.Metrics.Thread
import ExecutionLink.Metrics.Writing
import ExecutionLink.Number.Binary64
import ExecutionLink.Number.Shortest
import ExecutionLink.Payload
import ExecutionLink.Program
import ExecutionLink.Proofs.Builder.Answers
import ExecutionLink.Proofs.Builder.Wire
import ExecutionLink.Proofs.Bytes.Hex
import ExecutionLink.Proofs.Bytes.Reading
import ExecutionLink.Proofs.Channel.Calls
import ExecutionLink.Proofs.Channel.Counts
import ExecutionLink.Proofs.Channel.Receivers
import ExecutionLink.Proofs.Channel.Stub
import ExecutionLink.Proofs.Endpoint
import ExecutionLink.Proofs.Engine.Refusals
import ExecutionLink.Proofs.Json.Formats
import ExecutionLink.Proofs.Json.Grammar
import ExecutionLink.Proofs.Json.Lexemes
import ExecutionLink.Proofs.Json.Numerals
import ExecutionLink.Proofs.Json.Quantities
import ExecutionLink.Proofs.Json.Records
import ExecutionLink.Proofs.Json.RoundTrip
import ExecutionLink.Proofs.Json.Shape
import ExecutionLink.Proofs.Json.Sorted
import ExecutionLink.Proofs.Json.Spelling
import ExecutionLink.Proofs.Json.Strings
import ExecutionLink.Proofs.Json.Written
import ExecutionLink.Proofs.Metrics.Buckets
import ExecutionLink.Proofs.Metrics.Canonical
import ExecutionLink.Proofs.Metrics.Counting
import ExecutionLink.Proofs.Metrics.Exposition
import ExecutionLink.Proofs.Metrics.Histogram
import ExecutionLink.Proofs.Metrics.Intervals
import ExecutionLink.Proofs.Metrics.Labels
import ExecutionLink.Proofs.Metrics.Snapshot
import ExecutionLink.Proofs.Metrics.Sums
import ExecutionLink.Proofs.Metrics.Text
import ExecutionLink.Proofs.Metrics.Threads
import ExecutionLink.Proofs.Metrics.Transparency
import ExecutionLink.Proofs.Payload.Exact
import ExecutionLink.Proofs.Payload.Lossless
import ExecutionLink.Proofs.Service.Construction
import ExecutionLink.Proofs.Service.Delivery
import ExecutionLink.Proofs.Service.Environment
import ExecutionLink.Proofs.Service.Fleet
import ExecutionLink.Proofs.Service.Lifecycle
import ExecutionLink.Proofs.Service.Release
import ExecutionLink.Proofs.Service.Reported
import ExecutionLink.Proofs.Service.Starting
import ExecutionLink.Proofs.Service.Usage
import ExecutionLink.Proofs.Table
import ExecutionLink.Proofs.Text.ByteOrder
import ExecutionLink.Proofs.Text.Natural
import ExecutionLink.Proofs.Text.Trimming
import ExecutionLink.Response
import ExecutionLink.Service
import ExecutionLink.Site
import ExecutionLink.SocketAddress
import ExecutionLink.Table
import ExecutionLink.Text.Alphanumeric
import ExecutionLink.Text.Blank
import ExecutionLink.Text.CodePoints
import ExecutionLink.Text.Duration
import ExecutionLink.Text.Encoding
import ExecutionLink.Text.Natural
import ExecutionLink.Text.Printable
import ExecutionLink.Text.Quoted
import ExecutionLink.Url.Basic
import ExecutionLink.Url.Domain.Basic
import ExecutionLink.Url.Domain.Direction
import ExecutionLink.Url.Domain.Joiner
import ExecutionLink.Url.Domain.Mapping
import ExecutionLink.Url.Domain.Mark
import ExecutionLink.Url.Domain.Normal
import ExecutionLink.Url.Host
import ExecutionLink.Url.Punycode
import ExecutionLink.Proofs.Service.Stubbed
import ExecutionLink.Proofs.Engine.Replies
import ExecutionLink.Proofs.Engine.Numbering
import ExecutionLink.Proofs.Builder.Location
