import TickChart.Json.Record
import TickChart.Market.Candle
import TickChart.Market.Tick
import TickChart.Number.DecimalReader
import TickChart.Number.Shortest
import TickChart.Time.Printer
import TickChart.Time.Reader

/-!
# Records of market data

The documents that candles, ticks and what they are made of are kept as.

* `toDocument`: fields in the order of their declaration, decimals and instants as strings.
* `ofDocument?`: what a document holds. Decimals may also be numbers, and symbols are taken as they
  are.
-/

namespace TickChart

open TickChart.Json

namespace Decimal

/-- The decimal as a string. -/
def toDocument (d : Decimal) : Document := .ofText d.text

/-- The decimal nearest to a number of JSON: an integer as it is, a double by its shortest
notation. -/
def ofNumber? : Number → Option Decimal
  | .int n => ofInt? n
  | .double x => readPlain? x.plainChars

/-- A decimal in a string, without blanks around it, or in a number. -/
def ofDocument? : Document → Option Decimal
  | .string s => s.bind fun text => read? text.toList
  | .number l => l.number?.bind ofNumber?
  | _ => none

end Decimal

namespace Instant

/-- The instant as a string. -/
def toDocument (t : Instant) : Document := .ofText t.text

/-- An instant in a string. -/
def ofDocument? (d : Document) : Option Instant :=
  d.text?.bind fun text => Time.readLoose? text.toList

end Instant

namespace Symbol

/-- The symbol as a string. -/
def toDocument (s : Symbol) : Document := .ofText s.text

/-- The symbol with the text of a string. -/
def ofDocument? (d : Document) : Option Symbol := d.text?.map Symbol.mk

end Symbol

namespace Side

/-- The side by its name. -/
def toDocument (s : Side) : Document := .ofText s.label

/-- The side that a word names. -/
def ofDocument? (d : Document) : Option Side := d.word?.bind ofLabel?

end Side

namespace Timeframe

/-- The timeframe by its label. -/
def toDocument (f : Timeframe) : Document := .ofText f.label

/-- The timeframe that a word is the label of. -/
def ofDocument? (d : Document) : Option Timeframe := d.word?.bind ofLabel?

end Timeframe

namespace Candle

/-- The candle as an object. -/
def toDocument (c : Candle) : Document :=
  .record
    [("time", .ofInt c.bucketStart), ("open", c.openPrice.toDocument), ("high", c.high.toDocument),
     ("low", c.low.toDocument), ("close", c.close.toDocument), ("volume", c.volume.toDocument)]

/-- A candle with all its fields. -/
def ofDocument? (d : Document) : Option Candle := do
  match ← d.fields? ["time", "open", "high", "low", "close", "volume"] with
  | [some time, some openPrice, some high, some low, some close, some volume] =>
    some {
      bucketStart := ← time.intIn? leastInt greatestSigned
      openPrice := ← Decimal.ofDocument? openPrice
      high := ← Decimal.ofDocument? high
      low := ← Decimal.ofDocument? low
      close := ← Decimal.ofDocument? close
      volume := ← Decimal.ofDocument? volume }
  | _ => none

end Candle

namespace DailyStats

/-- A figure, or `null` for one that is not known. -/
def figure (d : Option Decimal) : Document := (d.map Decimal.toDocument).getD .null

/-- The statistics as an object. -/
def toDocument (s : DailyStats) : Document :=
  .record
    [("high_24h", figure s.high), ("low_24h", figure s.low), ("volume_24h", figure s.volume)]

/-- Statistics, of which any may be missing. -/
def ofDocument? (d : Document) : Option DailyStats := do
  match ← d.fields? ["high_24h", "low_24h", "volume_24h"] with
  | [high, low, volume] =>
    some {
      high := ← Document.optional? Decimal.ofDocument? high
      low := ← Document.optional? Decimal.ofDocument? low
      volume := ← Document.optional? Decimal.ofDocument? volume }
  | _ => none

end DailyStats

namespace Tick

/-- The tick as an object. -/
def toDocument (t : Tick) : Document :=
  .record
    [("symbol", t.symbol.toDocument), ("price", t.price.toDocument), ("size", t.size.toDocument),
     ("side", t.side.toDocument), ("time", t.time.toDocument), ("stats", t.stats.toDocument)]

/-- A tick with all its fields. -/
def ofDocument? (d : Document) : Option Tick := do
  match ← d.fields? ["symbol", "price", "size", "side", "time", "stats"] with
  | [some symbol, some price, some size, some side, some time, some stats] =>
    some {
      symbol := ← Symbol.ofDocument? symbol
      price := ← Decimal.ofDocument? price
      size := ← Decimal.ofDocument? size
      side := ← Side.ofDocument? side
      time := ← Instant.ofDocument? time
      stats := ← DailyStats.ofDocument? stats }
  | _ => none

end Tick

namespace Selection

/-- The selection as an object. -/
def toDocument (s : Selection) : Document :=
  .record [("symbol", s.symbol.toDocument), ("timeframe", s.timeframe.toDocument)]

/-- A selection with both its fields. -/
def ofDocument? (d : Document) : Option Selection := do
  match ← d.fields? ["symbol", "timeframe"] with
  | [some symbol, some timeframe] =>
    some {
      symbol := ← Symbol.ofDocument? symbol
      timeframe := ← Timeframe.ofDocument? timeframe }
  | _ => none

end Selection

namespace Generation

/-- The generation as its number. -/
def toDocument (g : Generation) : Document := .ofInt g.number

/-- The generation with a number of 64 bits. -/
def ofDocument? (d : Document) : Option Generation :=
  (d.intIn? 0 greatestInt).map fun n => ⟨n.toNat⟩

end Generation

end TickChart
