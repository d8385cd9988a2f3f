import TickChart.Market.Candle
import TickChart.Market.Tick

/-!
# Aggregating ticks

Ticks are summed up into candles by their own times, not by the time at which they arrive. A bucket
that a later one has followed is closed for good.

* `Aggregator`: the open candle of one symbol and timeframe, and the one before it.
* `CandleEvent`: a bucket was opened, or the open one was updated.
* `Aggregator.apply`: what one tick does. Ticks of other symbols and of closed buckets do nothing.
-/

namespace TickChart

/-- What a tick did to the open candle. -/
inductive CandleEvent where
  /-- A later bucket was opened, with this candle. -/
  | opened (candle : Candle)
  /-- The open candle took up a tick and became this one. -/
  | updated (candle : Candle)
deriving DecidableEq

/-- The candle that an event carries. -/
def CandleEvent.candle : CandleEvent → Candle
  | opened c | updated c => c

/-- The candles that the ticks of one symbol make up in one timeframe (`CandleAggregator`). -/
structure Aggregator where
  symbol : Symbol
  timeframe : Timeframe
  /-- The open candle, once there was a tick. -/
  current : Option Candle
  /-- The candle that was closed last. -/
  lastClosed : Option Candle
deriving DecidableEq

namespace Aggregator

/-- `CandleAggregator.new`: no tick has come yet. -/
def empty (symbol : Symbol) (timeframe : Timeframe) : Aggregator := ⟨symbol, timeframe, none, none⟩

/-- The bucket that a tick falls in. -/
def bucketOf (a : Aggregator) (t : Tick) : Int := a.timeframe.bucketStart t.time.seconds

/-- The aggregator after a tick has opened its bucket. -/
def openBucket (a : Aggregator) (t : Tick) : Aggregator × Option CandleEvent :=
  let candle := Candle.openAt (a.bucketOf t) t.price t.size
  ({ a with current := some candle, lastClosed := a.current.or a.lastClosed },
    some (.opened candle))

/-- `CandleAggregator.apply`: the aggregator after a tick, and what the tick did. -/
def apply (a : Aggregator) (t : Tick) : Except Fault (Aggregator × Option CandleEvent) :=
  if t.symbol ≠ a.symbol then .ok (a, none)
  else
    match a.current with
    | none => .ok (a.openBucket t)
    | some candle =>
      if a.bucketOf t < candle.bucketStart then .ok (a, none)
      else if a.bucketOf t = candle.bucketStart then
        (candle.absorb t.price t.size).map fun grown =>
          ({ a with current := some grown }, some (.updated grown))
      else .ok (a.openBucket t)

/-- A tick of another symbol does nothing. -/
theorem apply_of_symbol_ne {a : Aggregator} {t : Tick} (h : t.symbol ≠ a.symbol) :
    a.apply t = .ok (a, none) := by
  simp [apply, h]

/-- The first tick of the symbol opens its bucket. -/
theorem apply_of_current_none {a : Aggregator} {t : Tick} (hs : t.symbol = a.symbol)
    (h : a.current = none) : a.apply t = .ok (a.openBucket t) := by
  simp [apply, hs, h]

/-- A tick of a closed bucket does nothing. -/
theorem apply_of_late {a : Aggregator} {t : Tick} {c : Candle} (hc : a.current = some c)
    (h : a.bucketOf t < c.bucketStart) : a.apply t = .ok (a, none) := by
  by_cases hs : t.symbol = a.symbol <;> simp [apply, hs, hc, h]

/-- A tick of a later bucket opens it. -/
theorem apply_of_later {a : Aggregator} {t : Tick} {c : Candle} (hs : t.symbol = a.symbol)
    (hc : a.current = some c) (h : c.bucketStart < a.bucketOf t) :
    a.apply t = .ok (a.openBucket t) := by
  simp only [apply, hs, ne_eq, not_true_eq_false, ↓reduceIte, hc]
  rw [if_neg (by omega), if_neg (by omega)]

/-- A tick of the open bucket is taken up by its candle. -/
theorem apply_of_same {a : Aggregator} {t : Tick} {c : Candle} (hs : t.symbol = a.symbol)
    (hc : a.current = some c) (h : a.bucketOf t = c.bucketStart) :
    a.apply t = (c.absorb t.price t.size).map fun grown =>
      ({ a with current := some grown }, some (.updated grown)) := by
  simp [apply, hs, hc, h]

end Aggregator

end TickChart
