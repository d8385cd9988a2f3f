import TickChart.Backend.Field
import TickChart.Market.Candle

/-!
# History

The candles of the past, as a backend delivers them.

* `Window`: the span of time that is asked for.
* `Candle.ofRow?`: the candle of one row, in the bucket that the row's instant lies in.
* `Series.ofRows`: the series of all rows that hold a valid candle.
* `History`: what a successful request yields.
-/

namespace TickChart

open TickChart.Json

/-- The span of time that a request asks for (`HistoryWindow`). -/
structure Window where
  start : Instant
  stop : Instant
deriving DecidableEq

/-- `HistoryWindow.lookback`: the window that ends at `stop` and is as long as a chart of the
timeframe reaches back. -/
def Window.lookback (f : Timeframe) (stop : Instant) : Except Fault Window :=
  match stop.before? f.lookback with
  | some start => .ok ⟨start, stop⟩
  | none => .error .beforeAllTime

/-- `parse_row`: the candle of a row. A volume that is missing or not readable counts as none. -/
def Candle.ofRow? (f : Timeframe) (row : Value) : Option Candle := do
  let time ← row.rowTime?
  some {
    bucketStart := f.bucketStart time.seconds
    openPrice := ← (row.get? "open").bind Value.decimal?
    high := ← (row.get? "high").bind Value.decimal?
    low := ← (row.get? "low").bind Value.decimal?
    close := ← (row.get? "close").bind Value.decimal?
    volume := ((row.get? "volume").bind Value.decimal?).getD Decimal.zero }

namespace Series

/-- `normalise`: the series of the rows that hold a valid candle; of several rows of one bucket the
last one counts. -/
def ofRows (f : Timeframe) (rows : List Value) : List Candle :=
  ofCandles ((rows.filterMap (Candle.ofRow? f)).filter (·.Valid))

end Series

/-- What a successful request yields (`HistoryOutcome`). -/
inductive History where
  /-- A series that is not empty. -/
  | loaded (series : List Candle)
  /-- The backend has nothing for the window. -/
  | noData
deriving DecidableEq

namespace History

/-- `HistoryOutcome.from_candles`: a series as a result. -/
def ofSeries (series : List Candle) : History :=
  if series.isEmpty then noData else loaded series

/-- The names under which an answer may hold its rows. -/
def rowKeys : List String := ["candles", "data"]

end History

end TickChart
