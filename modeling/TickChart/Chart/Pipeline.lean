import TickChart.Backend.History
import TickChart.Chart.Timeline
import TickChart.Feed.Message

/-!
# From frames to candles

The way of a text frame through one session: to a message, to a candle, to the series.

* `Arrival`: a frame, and when it was received.
* `Pipeline.seeded`: a session whose series is a history.
* `Pipeline.step`: what one frame does.
-/

namespace TickChart

open TickChart.Json

/-- A text frame, and the moment at which it is received. -/
structure Arrival where
  frame : String
  received : Instant
deriving DecidableEq

/-- A session without its surroundings. -/
structure Pipeline where
  aggregator : Aggregator
  timeline : Timeline
deriving DecidableEq

/-- What a frame came to. -/
inductive FrameResult where
  /-- It could not be read. -/
  | unreadable (error : ReadError)
  /-- It is no trade. -/
  | confirmed
  | complaint (reason : String)
  /-- Its trade belongs to no open bucket. -/
  | dropped
  /-- The series refused the candle. -/
  | refused (refusal : Refusal)
  /-- The series took up the candle. -/
  | changed (change : SeriesChange)
deriving DecidableEq

namespace Pipeline

/-- A session of the first generation without a history. -/
def initial (symbol : Symbol) (timeframe : Timeframe) : Pipeline :=
  ⟨.empty symbol timeframe, Timeline.initial.begin⟩

/-- The rows of an answer of the backend; an answer of another form has none. -/
def historyRows (answer : Option Value) : List Value :=
  (answer.bind (·.rows? History.rowKeys)).getD []

/-- A session whose series is the history that an answer of the backend holds. -/
def seeded (symbol : Symbol) (timeframe : Timeframe) (answer : Option Value) : Pipeline :=
  let p := initial symbol timeframe
  let candles := Series.ofRows timeframe (historyRows answer)
  match p.timeline.reset p.timeline.generation candles with
  | .ok (timeline, _) => { p with timeline }
  | .error _ => p

/-- The session after a tick. -/
def onTick (p : Pipeline) (tick : Tick) : Except Fault (Pipeline × FrameResult) := do
  match ← p.aggregator.apply tick with
  | (aggregator, none) => .ok ({ p with aggregator }, .dropped)
  | (aggregator, some event) =>
    match p.timeline.follow p.timeline.generation event with
    | .ok (timeline, change) => .ok ({ p with aggregator, timeline }, .changed change)
    | .error refusal => .ok ({ p with aggregator }, .refused refusal)

/-- The session after a frame. -/
def step (p : Pipeline) (a : Arrival) : Except Fault (Pipeline × FrameResult) :=
  let symbol := p.aggregator.symbol
  match FeedMessage.ofText? a.frame symbol.product symbol a.received with
  | .ok (.tick tick) => p.onTick tick
  | .ok .subscribed => .ok (p, .confirmed)
  | .ok (.complaint reason) => .ok (p, .complaint reason)
  | .error error => .ok (p, .unreadable error)

end Pipeline

end TickChart
