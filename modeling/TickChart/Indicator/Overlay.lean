import TickChart.Backend.Field
import TickChart.Market.Record

/-!
# Overlays

Indicators arrive as rows, one for each time, and are displayed as lines, one for each name. A
backend's rows hold a time and fields, of which those with a finite value are indicators. Times and
prices stand in the same rows and are not.

* `IndicatorPoint`: a row: the values that are known for one second.
* `IndicatorLine`: the values of one name, by time.
* `Overlay.ofPoints`: the lines of the rows. Where two rows of one second both have a value for a
  name, the later row counts.
* `Overlay.aligned`: only what lies at the start of a candle.
* `isIndicatorKey`: the field of a backend's row is neither a time nor a price.
* `IndicatorPoint.ofRow?`, `indicatorPoints`: the values of one row, and of the rows of an answer.
-/

namespace TickChart

open TickChart.Json

/-- The values of one second, ascending by name. -/
structure IndicatorPoint where
  time : Int
  values : List (String × Double)
deriving DecidableEq

/-- A value at a second. -/
structure LinePoint where
  time : Int
  value : Double
deriving DecidableEq

/-- The values of one name. -/
structure IndicatorLine where
  name : String
  points : List LinePoint
deriving DecidableEq

/-- `latest`: the point that lies last in time. -/
def IndicatorLine.latest? (l : IndicatorLine) : Option LinePoint := l.points.getLast?

/-- The lines of a symbol (`IndicatorOverlay`). -/
structure Overlay where
  symbol : Symbol
  lines : List IndicatorLine
deriving DecidableEq

/-- Every value of the rows with its name, row by row. -/
def namedPoints (points : List IndicatorPoint) : List (String × LinePoint) :=
  points.flatMap fun p => p.values.map fun (name, value) => (name, ⟨p.time, value⟩)

/-- The names that have a value, ascending. -/
def namesOf (named : List (String × LinePoint)) : List String :=
  Keyed.ofList id (named.map Prod.fst)

/-- The line of a name: its values by time, the last one of each second (`sort_dedup_last`). -/
def lineOf (named : List (String × LinePoint)) (name : String) : IndicatorLine :=
  ⟨name, Keyed.ofList LinePoint.time
    (named.filterMap fun (n, p) => if n = name then some p else none)⟩

namespace Overlay

/-- The overlay without lines. -/
def empty (symbol : Symbol) : Overlay := ⟨symbol, []⟩

/-- `IndicatorOverlay.from_points`: the lines of rows, ascending by name. -/
def ofPoints (symbol : Symbol) (points : List IndicatorPoint) : Overlay :=
  let named := namedPoints points
  ⟨symbol, (namesOf named).map (lineOf named)⟩

/-- `is_empty`: there is no line. -/
def isEmpty (o : Overlay) : Bool := o.lines.isEmpty

/-- `line`: the line with a name. -/
def line? (o : Overlay) (name : String) : Option IndicatorLine := o.lines.find? (·.name = name)

/-- `aligned`: the points at the start of a candle of an ascending series, without the lines that
are left empty. Nothing is interpolated. -/
def aligned (o : Overlay) (series : List Candle) : Overlay :=
  let starts := (series.map Candle.bucketStart).toArray
  let kept := o.lines.map fun l => { l with points := l.points.filter (holdsKey starts ·.time) }
  ⟨o.symbol, kept.filter fun l => !l.points.isEmpty⟩

@[simp] theorem ofPoints_nil (symbol : Symbol) : ofPoints symbol [] = empty symbol := rfl

end Overlay

/-! ## Rows of a backend -/

/-- The fields that tell the time of a row. -/
def timeKeys : List String := ["timestamp", "time"]

/-- The fields of the candle that a row stands at. -/
def candleKeys : List String := ["open", "high", "low", "close", "volume"]

/-- `is_indicator_key`: the field is neither a time nor, in any case of its letters, a field of the
candle. -/
def isIndicatorKey (key : String) : Bool :=
  !timeKeys.contains key &&
    !candleKeys.any fun k => Text.eqIgnoringCase k.toList key.toList

/-- The indicators among members, as far as they have finite values. -/
def indicatorValues (members : List (String × Value)) : List (String × Double) :=
  (members.filter fun (key, _) => isIndicatorKey key).filterMap fun (key, v) =>
    v.finite?.map (key, ·)

/-- The values of a row with a readable time (`parse_row`). -/
def IndicatorPoint.ofRow? (row : Value) : Option IndicatorPoint := do
  let members ← row.members?
  let time ← row.rowTime?
  some { time := time.seconds, values := indicatorValues members }

/-- The names under which an answer may hold its rows. -/
def indicatorRowKeys : List String := ["data"]

/-- `parse_rows`: the rows of an answer with a readable time; an answer without rows has none. -/
def indicatorPoints (answer : Value) : List IndicatorPoint :=
  ((answer.rows? indicatorRowKeys).getD []).filterMap IndicatorPoint.ofRow?

/-! ## Records -/

/-- A double, from any number. -/
def Double.ofDocument? (d : Document) : Option Double := d.number?.map Number.toDouble

/-- The second of a point. -/
def timeOfDocument? (d : Document) : Option Int := d.intIn? leastInt greatestSigned

namespace IndicatorPoint

/-- The value of a member with its name. -/
def valueOfMember? (member : Option String × Document) : Option (String × Double) := do
  some (← member.1, ← Double.ofDocument? member.2)

/-- The values of an object by their names, the last one of a name. -/
def valuesOfDocument? : Document → Option (List (String × Double))
  | .object members => (members.mapM valueOfMember?).map (Keyed.ofList Prod.fst)
  | _ => none

/-- A row with its second and its values. -/
def ofDocument? (d : Document) : Option IndicatorPoint := do
  match ← d.fields? ["time", "values"] with
  | [some time, some values] =>
    some { time := ← timeOfDocument? time, values := ← valuesOfDocument? values }
  | _ => none

end IndicatorPoint

/-- A value at a second. -/
def LinePoint.ofDocument? (d : Document) : Option LinePoint := do
  match ← d.fields? ["time", "value"] with
  | [some time, some value] =>
    some { time := ← timeOfDocument? time, value := ← Double.ofDocument? value }
  | _ => none

/-- A line as it stands in the document. -/
def IndicatorLine.ofDocument? (d : Document) : Option IndicatorLine := do
  match ← d.fields? ["name", "points"] with
  | [some name, some points] =>
    some { name := ← name.text?, points := ← points.list? LinePoint.ofDocument? }
  | _ => none

/-- An overlay as it stands in the document. -/
def Overlay.ofDocument? (d : Document) : Option Overlay := do
  match ← d.fields? ["symbol", "lines"] with
  | [some symbol, some lines] =>
    some { symbol := ← Symbol.ofDocument? symbol, lines := ← lines.list? IndicatorLine.ofDocument? }
  | _ => none

end TickChart
