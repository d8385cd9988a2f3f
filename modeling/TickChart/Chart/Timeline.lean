import TickChart.Market.Aggregator

/-!
# Timelines

A timeline is the series of the chart's present selection. History replaces it as a whole, live
candles extend it or change its last candle. Whatever comes in is tagged with the generation of the
selection that it was made for, and is refused when that is not the present one.

* `Timeline.begin`: a new generation, whose series is empty.
* `Timeline.reset`: history instead of the series.
* `Timeline.follow`: a live candle behind the series or in place of its last candle.
* `SeriesChange`: what an accepted input changed, for those who display the series.
* `Refusal`: why an input was refused.
-/

namespace TickChart

/-- What has to be displayed anew (`SeriesUpdate`). -/
inductive SeriesChange where
  /-- The whole series. -/
  | replaceAll (series : List Candle)
  /-- The last candle, or one behind it. -/
  | upsertLast (candle : Candle)
deriving DecidableEq

/-- Why an input changed nothing (`Ignored`). -/
inductive Refusal where
  /-- It was made for another generation than the present one. -/
  | stale (generation current : Generation)
  /-- It opens a bucket that is not after the last one. -/
  | outOfOrder (bucket last : Int)
  /-- It updates another bucket than the last one. -/
  | bucketMismatch (bucket : Int) (last : Option Int)
deriving DecidableEq

/-- An integer in decimal notation, as text. -/
def intText (n : Int) : String := String.ofList (Text.intDigits n)

/-- The text of a refusal. -/
def Refusal.message : Refusal → String
  | stale generation current =>
    "stale result for generation " ++ generation.text ++ ", current is " ++ current.text
  | outOfOrder bucket last =>
    "opened bucket " ++ intText bucket ++ " is not after the last bucket " ++ intText last
  | bucketMismatch bucket none =>
    "updated bucket " ++ intText bucket ++ " does not match the last bucket None"
  | bucketMismatch bucket (some last) =>
    "updated bucket " ++ intText bucket ++ " does not match the last bucket Some(" ++ intText last
      ++ ")"

/-- The series of the present selection and its generation (`SeriesReconciler`). -/
structure Timeline where
  generation : Generation
  series : List Candle
deriving DecidableEq

namespace Timeline

/-- Nothing has been selected yet. -/
def initial : Timeline := ⟨⟨0⟩, []⟩

/-- `begin_generation`: a new generation. Everything that was made for an earlier one is stale from
now on. -/
def begin (t : Timeline) : Timeline := ⟨t.generation.next, []⟩

/-- `reset`: history in place of the whole series. -/
def reset (t : Timeline) (generation : Generation) (candles : List Candle) :
    Except Refusal (Timeline × SeriesChange) :=
  if generation = t.generation then
    let series := Series.ofCandles candles
    .ok ({ t with series }, .replaceAll series)
  else .error (.stale generation t.generation)

/-- A candle behind the series, if its bucket is after all that are there (`on_aggregator_event` of
`Opened`). -/
def append (t : Timeline) (candle : Candle) : Except Refusal (Timeline × SeriesChange) :=
  match Series.lastBucket? t.series with
  | some last =>
    if candle.bucketStart ≤ last then .error (.outOfOrder candle.bucketStart last)
    else .ok ({ t with series := t.series ++ [candle] }, .upsertLast candle)
  | none => .ok ({ t with series := [candle] }, .upsertLast candle)

/-- A candle in place of the last one, if it is of the same bucket (`on_aggregator_event` of
`Updated`). -/
def replaceLast (t : Timeline) (candle : Candle) : Except Refusal (Timeline × SeriesChange) :=
  if Series.lastBucket? t.series = some candle.bucketStart then
    .ok ({ t with series := t.series.dropLast ++ [candle] }, .upsertLast candle)
  else .error (.bucketMismatch candle.bucketStart (Series.lastBucket? t.series))

/-- `on_aggregator_event`: what a live candle does. An opened one goes behind the series, an updated
one in place of the last. -/
def follow (t : Timeline) (generation : Generation) (event : CandleEvent) :
    Except Refusal (Timeline × SeriesChange) :=
  if generation = t.generation then
    match event with
    | .opened candle => t.append candle
    | .updated candle => t.replaceLast candle
  else .error (.stale generation t.generation)

end Timeline

end TickChart
