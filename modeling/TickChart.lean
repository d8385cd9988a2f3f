import TickChart.Backend.Endpoint
import TickChart.Backend.FetchError
import TickChart.Backend.Field
import TickChart.Backend.History
import TickChart.Backend.Reply
import TickChart.Chart.Desk
import TickChart.Chart.Engine
import TickChart.Chart.Pipeline
import TickChart.Chart.Surface
import TickChart.Chart.Timeline
import TickChart.Command
import TickChart.Config.Settings
import TickChart.Feed.Backoff
import TickChart.Feed.Connection
import TickChart.Feed.Message
import TickChart.Feed.Script
import TickChart.Indicator.Overlay
import TickChart.Json.Document
import TickChart.Json.Number
import TickChart.Json.Quoted
import TickChart.Json.Record
import TickChart.Json.Value
import TickChart.Keyed
import TickChart.Main
import TickChart.Market.Aggregator
import TickChart.Market.Candle
import TickChart.Market.Failure
import TickChart.Market.Record
import TickChart.Market.Symbol
import TickChart.Market.Tick
import TickChart.Market.Timeframe
import TickChart.Number.Decimal
import TickChart.Number.DecimalReader
import TickChart.Number.Double
import TickChart.Number.Shortest
import TickChart.Text.Ascii
import TickChart.Text.Blank
import TickChart.Text.Composition
import TickChart.Text.Integer
import TickChart.Text.Mark
import TickChart.Text.Table
import TickChart.Text.Upper
import TickChart.Text.Utf8
import TickChart.Time.Calendar
import TickChart.Time.Duration
import TickChart.Time.Instant
import TickChart.Time.Printer
import TickChart.Time.Reader
import TickChart.Url.Address
import TickChart.Url.Basic
import TickChart.Url.Direction
import TickChart.Url.Domain
import TickChart.Url.DomainMapping
import TickChart.Url.Joining
import TickChart.Url.Path
import TickChart.Url.Percent
import TickChart.Url.Punycode
import TickChart.Url.Reader
import TickChart.Proofs.Keyed
import TickChart.Proofs.Digits
import TickChart.Proofs.Documents
import TickChart.Proofs.DecimalText
import TickChart.Proofs.InstantText
import TickChart.Proofs.Records
import TickChart.Proofs.Series
import TickChart.Proofs.Rows
import TickChart.Proofs.Timeline
import TickChart.Proofs.Surface
import TickChart.Proofs.Decimal
import TickChart.Proofs.Accepted
import TickChart.Proofs.LiveCandle
import TickChart.Proofs.Aggregator
import TickChart.Proofs.Merge
import TickChart.Proofs.Newest
import TickChart.Proofs.Trades
import TickChart.Proofs.Frames
import TickChart.Proofs.Seam
import TickChart.Proofs.Lifecycle
import TickChart.Proofs.Delivery
import TickChart.Proofs.RollUp
import TickChart.Proofs.Refusal
import TickChart.Proofs.Covered
import TickChart.Proofs.Shown
import TickChart.Proofs.Sessions
import TickChart.Proofs.Turns
import TickChart.Proofs.Ticker
import TickChart.Proofs.Delays
import TickChart.Proofs.Values
import TickChart.Proofs.Lines
import TickChart.Proofs.Aligned
import TickChart.Proofs.Indicators
import TickChart.Proofs.Polls
import TickChart.Proofs.Timers
import TickChart.Proofs.Nearest
import TickChart.Proofs.Shortest
import TickChart.Proofs.Amounts
import TickChart.Proofs.Fields
import TickChart.Proofs.Notations
import TickChart.Proofs.Buckets
import TickChart.Proofs.Segments
import TickChart.Proofs.Endpoints
import TickChart.Proofs.Casing
import TickChart.Proofs.LastWins
import TickChart.Proofs.Symbols
import TickChart.Proofs.Grid
