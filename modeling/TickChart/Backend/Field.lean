import TickChart.Json.Value
import TickChart.Market.Record

/-!
# Fields of a backend's rows

Backends write one thing in several ways. A field that is not readable in any of them counts as
absent.

* `Value.instant?`: an instant, as text or as a number of seconds.
* `Value.decimal?`: a decimal, as text or as a number.
* `Value.finite?`: a finite double, as text or as a number.
* `Value.rows?`: the rows of an answer, bare or under a name.
* `Value.rowTime?`: the time of a row.
-/

namespace TickChart.Json

/-- The nearest signed integer of 64 bits. -/
def clampSigned (n : Int) : Int := max leastInt (min greatestSigned n)

namespace Number

/-- The number in whole seconds: a double without its fraction, and within 64 bits. -/
def seconds (n : Number) : Int := n.signed?.getD (clampSigned n.toDouble.truncate)

/-- The number as a decimal: a signed integer as it is, any other number by the shortest notation
of its double. -/
def decimal? (n : Number) : Option Decimal :=
  match n.signed? with
  | some i => Decimal.ofInt? i
  | none => Decimal.readPlain? n.toDouble.plainChars

end Number

namespace Value

/-- `timestamp_from_value`: the instant that a text names or that lies a number of seconds after the
start of 1970. -/
def instant? : Value → Option Instant
  | string s => Time.readInstant? s
  | number n => Instant.ofSeconds? n.seconds
  | _ => none

/-- `decimal_from_value`: the decimal that a text writes, with or without blanks around it, or that
a number is. -/
def decimal? : Value → Option Decimal
  | string s => Decimal.readTrimmed? s
  | number n => n.decimal?
  | _ => none

/-- `f64_from_value`: the finite double that a text writes, with or without blanks around it, or
that a number is. -/
def finite? : Value → Option Double
  | string s => (Text.readDouble? (Text.trim s.toList)).bind Double.finite?
  | number n => n.toDouble.finite?
  | _ => none

/-- The items of an array. -/
def items? : Value → Option (List Value)
  | array vs => some vs
  | _ => none

/-- `unwrap_rows`: the rows of an answer, which are the answer itself if it is an array, or else the
first array that it holds under one of `keys`. -/
def rows? (keys : List String) : Value → Option (List Value)
  | array vs => some vs
  | object members => keys.findSome? fun key => (members.lookup key).bind items?
  | _ => none

/-- The time of a row, from its member `timestamp`, or from `time` where there is no `timestamp`. -/
def rowTime? (row : Value) : Option Instant :=
  (row.get? "timestamp" <|> row.get? "time").bind instant?

end Value

end TickChart.Json
