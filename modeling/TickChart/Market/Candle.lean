import TickChart.Keyed
import TickChart.Market.Failure
import TickChart.Number.Decimal
import TickChart.Time.Instant

/-!
# Candles

A candle sums up the trades of one bucket: the first price, the highest and the lowest, the last
one, and the traded volume.

* `Candle.openAt`: the candle of a bucket's first trade.
* `Candle.absorb`: the candle with one more trade of its bucket.
* `Candle.Valid`: the prices are positive and in order, and the volume is not negative.
* `Series.ofCandles`: candles in the order of their buckets, the last one of each bucket.
-/

namespace TickChart

/-- The trades of one bucket, which begins at the second `bucketStart`. -/
structure Candle where
  bucketStart : Int
  openPrice : Decimal
  high : Decimal
  low : Decimal
  close : Decimal
  volume : Decimal
deriving DecidableEq, Inhabited

namespace Candle

/-- `open_at`: the candle of a bucket's first trade. -/
def openAt (bucketStart : Int) (price size : Decimal) : Candle :=
  ⟨bucketStart, price, price, price, price, size⟩

/-- `absorb`: the candle with one more trade. -/
def absorb (c : Candle) (price size : Decimal) : Except Fault Candle :=
  match c.volume.add? size with
  | some volume =>
    .ok { c with
      high := c.high.highest price
      low := c.low.lowest price
      close := price
      volume }
  | none => .error .sumTooLarge

/-- The prices are positive, the open and the close lie between the low and the high, and the volume
is not negative (`is_valid`). -/
def Valid (c : Candle) : Prop :=
  Decimal.zero < c.low ∧ c.low ≤ c.openPrice ∧ c.openPrice ≤ c.high ∧ c.low ≤ c.close ∧
    c.close ≤ c.high ∧ Decimal.zero ≤ c.volume

instance (c : Candle) : Decidable c.Valid := by unfold Valid; infer_instance

/-- `Candle.time`: the instant at which the bucket begins, if there is one. -/
def time? (c : Candle) : Option Instant := Instant.ofSeconds? c.bucketStart

end Candle

namespace Series

/-- Candles in the order of their buckets, no bucket twice. -/
def Ascending (series : List Candle) : Prop := Keyed.Ascending Candle.bucketStart series

instance (series : List Candle) : Decidable (Ascending series) := by
  unfold Ascending; infer_instance

/-- `into_series`: candles in the order of their buckets; of several candles of one bucket the last
is kept. -/
def ofCandles (candles : List Candle) : List Candle := Keyed.ofList Candle.bucketStart candles

/-- The bucket of the last candle. -/
def lastBucket? (series : List Candle) : Option Int := series.getLast?.map Candle.bucketStart

end Series

end TickChart
