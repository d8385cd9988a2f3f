import TickChart.Backend.FetchError
import TickChart.Chart.Timeline
import TickChart.Indicator.Overlay

/-!
# Surfaces

A surface is what displays a chart. It is driven by calls, and a call never asks anything back.

* `SurfaceCall`: the calls.
* `LoadState`: what is known about the history of the present selection.
* `Display`: what a surface shows; `Display.after` is the display after a call.
-/

namespace TickChart

/-- What is known about the history of a selection. -/
inductive LoadState where
  | loading
  | ready
  | noData
  | failed (error : FetchError)
deriving DecidableEq

/-- A call to a surface: an operation of `ChartSurface`, with what it is given. -/
inductive SurfaceCall where
  /-- The whole series. -/
  | replaceAll (series : List Candle)
  /-- A candle in place of the last one, or behind it. -/
  | upsertLast (candle : Candle)
  /-- The state of a selection's history. -/
  | loadState (selection : Selection) (state : LoadState)
  /-- The latest tick. -/
  | ticker (tick : Tick)
  /-- The indicator lines. -/
  | overlay (overlay : Overlay)
  /-- The indicators of a symbol could not be fetched. -/
  | overlayError (symbol : Symbol) (error : FetchError)
deriving DecidableEq

/-- `SeriesUpdate.render`: the call that shows a change of the series. -/
def SeriesChange.call : SeriesChange → SurfaceCall
  | replaceAll series => .replaceAll series
  | upsertLast candle => .upsertLast candle

/-- What a surface shows (`SeriesMirror`). -/
structure Display where
  candles : List Candle
  loadState : Option LoadState
  ticker : Option Tick
  overlay : Option Overlay
deriving DecidableEq

namespace Display

/-- Nothing is shown. -/
def blank : Display := ⟨[], none, none, none⟩

/-- `upsert_last`: a candle in place of the last one if that has the same bucket, and else behind
it. -/
def upsert (candles : List Candle) (candle : Candle) : List Candle :=
  if Series.lastBucket? candles = some candle.bucketStart then candles.dropLast ++ [candle]
  else candles ++ [candle]

/-- The display after a call. An overlay that could not be fetched leaves the old one. -/
def after (d : Display) : SurfaceCall → Display
  | .replaceAll series => { d with candles := series }
  | .upsertLast candle => { d with candles := upsert d.candles candle }
  | .loadState _ state => { d with loadState := some state }
  | .ticker tick => { d with ticker := some tick }
  | .overlay overlay => { d with overlay := some overlay }
  | .overlayError _ _ => d

/-- The display after calls, from the first to the last. -/
def afterAll (d : Display) (calls : List SurfaceCall) : Display := calls.foldl after d

@[simp] theorem afterAll_nil (d : Display) : d.afterAll [] = d := rfl

@[simp] theorem afterAll_cons (d : Display) (c : SurfaceCall) (cs : List SurfaceCall) :
    d.afterAll (c :: cs) = (d.after c).afterAll cs := rfl

theorem afterAll_append (d : Display) (a b : List SurfaceCall) :
    d.afterAll (a ++ b) = (d.afterAll a).afterAll b := by
  simp [afterAll]

end Display

end TickChart
