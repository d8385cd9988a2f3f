import TickChart.Market.Failure
import TickChart.Market.Symbol
import TickChart.Market.Timeframe
import TickChart.Number.Decimal
import TickChart.Text.Integer
import TickChart.Time.Instant

/-!
# Ticks and selections

* `Side`: who started a trade, the buyer or the seller.
* `Tick`: a trade with the statistics of the last day.
* `Selection`: the symbol and the timeframe that a chart shows.
* `Generation`: the number of a selection among all that were made.
-/

namespace TickChart

/-- Who started a trade. -/
inductive Side where
  | buy
  | sell
deriving DecidableEq, Inhabited

namespace Side

/-- The name of the side. -/
def label : Side → String
  | buy => "buy"
  | sell => "sell"

/-- The side with exactly this name. -/
def ofLabel? (s : String) : Option Side :=
  if s = "buy" then some buy else if s = "sell" then some sell else none

/-- `Side.from_str`: the side that a word names, in lower case, in upper case, or with a capital
letter. -/
def ofText? (s : String) : Except ReadError Side :=
  if s ∈ ["buy", "Buy", "BUY"] then .ok buy
  else if s ∈ ["sell", "Sell", "SELL"] then .ok sell
  else .error (.invalidField "side" s)

end Side

/-- Statistics over the last day, as far as they are known. -/
structure DailyStats where
  high : Option Decimal
  low : Option Decimal
  volume : Option Decimal
deriving DecidableEq, Inhabited

/-- A trade. -/
structure Tick where
  symbol : Symbol
  price : Decimal
  size : Decimal
  side : Side
  time : Instant
  stats : DailyStats
deriving DecidableEq

/-- What a chart shows. -/
structure Selection where
  symbol : Symbol
  timeframe : Timeframe
deriving DecidableEq, Inhabited

/-- The selection as text: the symbol, `@`, and the timeframe. -/
def Selection.text (s : Selection) : String := s.symbol.text ++ "@" ++ s.timeframe.label

/-- The number of a selection among all that were made. -/
structure Generation where
  number : Nat
deriving DecidableEq, Inhabited

/-- `Generation.next`: the generation after this one. -/
def Generation.next (g : Generation) : Generation := ⟨g.number + 1⟩

/-- The number of the generation. -/
def Generation.text (g : Generation) : String := String.ofList (Text.digits g.number)

end TickChart
