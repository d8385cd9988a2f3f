import TickChart.Backend.FetchError
import TickChart.Backend.History
import TickChart.Indicator.Overlay

/-!
# Replies

* `Reply`: what comes back on a request.
* `Reply.answer`: the value that a successful reply holds.
* `Reply.history`, `Reply.indicators`: the candles and the indicators that a reply tells.
-/

namespace TickChart

open TickChart.Json

/-- What comes back on a request. -/
inductive Reply where
  /-- Nothing, and why. -/
  | silence (reason : String)
  /-- A status and a body. -/
  | response (status : Nat) (body : String)
deriving DecidableEq

namespace Reply

/-- The status tells of success. -/
def isSuccess (status : Nat) : Bool := 200 ≤ status && status ≤ 299

/-- The body that comes with a status: with 204 and 304 there is none. -/
def bodyOf (status : Nat) (body : String) : String :=
  if status = 204 ∨ status = 304 then "" else body

/-- The value that a reply holds. -/
def answer : Reply → Except FetchError Value
  | silence reason => .error (.request reason)
  | response status body =>
    if isSuccess status then
      match Value.read? (bodyOf status body) with
      | some v => .ok v
      | none => .error (.decode "error decoding response body")
    else .error (.status status)

/-- `HttpHistoryLoader.load`: the candles that a reply tells. -/
def history (f : Timeframe) (r : Reply) : Except FetchError History := do
  match (← r.answer).rows? History.rowKeys with
  | some rows => .ok (.ofSeries (Series.ofRows f rows))
  | none => .error (.decode "expected an array of candles")

/-- `HttpIndicatorSource.poll`: the indicators that a reply tells. -/
def indicators (r : Reply) : Except FetchError (List IndicatorPoint) :=
  r.answer.map indicatorPoints

end Reply

end TickChart
