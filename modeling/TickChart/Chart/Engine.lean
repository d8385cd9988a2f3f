import TickChart.Backend.History
import TickChart.Chart.Surface

/-!
# The engine of a chart

The engine follows what its owner selects. For each selection it subscribes to the ticks, has the
history loaded, and shows the candles of both as one series. It does nothing by itself: each of its
handlers answers one occurrence with the requests and calls to be carried out, in order.

* `Engine`: the state between two occurrences.
* `Order`: a request to the world around the engine, or a call to its surface.
* `select`, `retry`, `onTick`, `onHistory`, `onIndicators`, `onTimer`, `teardown`: the handlers.
* `Engine.startPoll`: at most one poll of the indicators is under way.
-/

namespace TickChart

/-- The result of loading a history. -/
abbrev HistoryResult := Except FetchError History

/-- The result of polling indicators. -/
abbrev PollResult := Except FetchError (List IndicatorPoint)

/-- What belongs to the present selection and ends with it. -/
structure Session where
  generation : Generation
  selection : Selection
  aggregator : Aggregator
  /-- The subscription to the ticks. -/
  subscription : Nat
  /-- The loading of the history. -/
  load : Nat
deriving DecidableEq

/-- A request of the engine or a call to its surface. Subscriptions, loads and polls are numbered,
each kind from 0 in the order of the requests. -/
inductive Order where
  /-- Show something. -/
  | call (call : SurfaceCall)
  /-- Subscribe to the ticks of a symbol. -/
  | subscribe (subscription : Nat) (symbol : Symbol)
  /-- Close a subscription. -/
  | close (subscription : Nat)
  /-- Load the history of a selection, for a generation. -/
  | load (load : Nat) (generation : Generation) (selection : Selection)
  /-- Give a load up. -/
  | abortLoad (load : Nat)
  /-- Poll the indicators of a symbol. -/
  | poll (poll : Nat) (symbol : Symbol)
  /-- Give a poll up. -/
  | abortPoll (poll : Nat)
deriving DecidableEq

/-- The call that an order makes. -/
def Order.call? : Order → Option SurfaceCall
  | .call c => some c
  | _ => none

/-- The calls among orders, in order. -/
def calls (orders : List Order) : List SurfaceCall := orders.filterMap Order.call?

@[simp] theorem calls_nil : calls [] = [] := rfl

theorem calls_append (a b : List Order) : calls (a ++ b) = calls a ++ calls b := by
  simp [calls]

/-- The state of an engine (`ChartEngine`). -/
structure Engine where
  timeline : Timeline
  selection : Option Selection
  session : Option Session
  /-- The poll that was started last. -/
  poll : Option Nat
  /-- How many subscriptions, loads and polls were started. -/
  subscriptions : Nat
  loads : Nat
  polls : Nat
deriving DecidableEq

namespace Engine

/-- Nothing is selected. -/
def initial : Engine := ⟨.initial, none, none, none, 0, 0, 0⟩

/-- The orders that end the present session (`Session.drop`). -/
def closing (e : Engine) : List Order :=
  match e.session with
  | some s => [.close s.subscription, .abortLoad s.load]
  | none => []

/-- `ChartEngine.start`, with the load of `spawn_history`: the engine with a new session for a
selection. The old session is ended before anything of the new one exists. -/
def start (e : Engine) (selection : Selection) : Engine × List Order :=
  let timeline := e.timeline.begin
  let session : Session :=
    { generation := timeline.generation
      selection
      aggregator := .empty selection.symbol selection.timeframe
      subscription := e.subscriptions
      load := e.loads }
  ({ e with
      timeline
      selection := some selection
      session := some session
      subscriptions := e.subscriptions + 1
      loads := e.loads + 1 },
    e.closing ++
      [.call (.replaceAll timeline.series), .call (.loadState selection .loading),
       .subscribe e.subscriptions selection.symbol, .load e.loads timeline.generation selection])

/-- `poll_indicators`: the engine after a new poll of the selected symbol, if there is one. While
the last poll is under way a new one is started only if it is forced, and then the last one is given
up. -/
def startPoll (e : Engine) (force underway : Bool) : Engine × List Order :=
  match e.selection with
  | none => (e, [])
  | some selection =>
    match e.poll with
    | some poll =>
      if underway && !force then (e, [])
      else
        ({ e with poll := some e.polls, polls := e.polls + 1 },
          (if underway then [.abortPoll poll] else []) ++ [.poll e.polls selection.symbol])
    | none =>
      ({ e with poll := some e.polls, polls := e.polls + 1 }, [.poll e.polls selection.symbol])

/-- The selected symbol. -/
def symbol? (e : Engine) : Option Symbol := e.selection.map Selection.symbol

/-- `ChartEngine.select`: the owner selects. With another symbol the overlay is emptied and a poll
is forced. -/
def select (e : Engine) (selection : Selection) (underway : Bool) : Engine × List Order :=
  let (started, orders) := e.start selection
  if e.symbol? = some selection.symbol then (started, orders)
  else
    let (polled, more) := started.startPoll true underway
    (polled, orders ++ .call (.overlay (.empty selection.symbol)) :: more)

/-- `ChartEngine.retry`: the owner wants the present selection anew. -/
def retry (e : Engine) (underway : Bool) : Engine × List Order :=
  match e.selection with
  | none => (e, [])
  | some selection =>
    let (started, orders) := e.start selection
    let (polled, more) := started.startPoll true underway
    (polled, orders ++ more)

/-- The loop of `replay_live_candles`: the candles of `live` behind a series, each opened in turn;
those that the series covers are left out. -/
def replay (timeline : Timeline) : List Candle → Timeline × List SurfaceCall
  | [] => (timeline, [])
  | candle :: live =>
    match timeline.follow timeline.generation (.opened candle) with
    | .ok (grown, change) =>
      let (done, more) := replay grown live
      (done, change.call :: more)
    | .error _ => replay timeline live

/-- The candles of `live` that are after the last one of a series, which `replay_live_candles`
keeps. -/
def newerThan (series live : List Candle) : List Candle :=
  match Series.lastBucket? series with
  | some last => live.filter fun c => last < c.bucketStart
  | none => live

/-- `on_history`: a history was loaded for a generation and a selection. That of an earlier
generation is dropped. The candles that were built live in the meantime go behind those of the
history. -/
def onHistory (e : Engine) (generation : Generation) (selection : Selection)
    (result : HistoryResult) : Engine × List Order :=
  if generation ≠ e.timeline.generation then (e, [])
  else
    match result with
    | .ok (.loaded candles) =>
      match e.timeline.reset generation candles with
      | .ok (timeline, change) =>
        let (timeline, more) := replay timeline (newerThan timeline.series e.timeline.series)
        ({ e with timeline },
          .call change.call :: .call (.loadState selection .ready) :: more.map .call)
      | .error _ => (e, [])
    | .ok .noData => (e, [.call (.loadState selection .noData)])
    | .error error => (e, [.call (.loadState selection (.failed error))])

/-- The engine after what a tick did to the candles of the session. -/
def followTick (e : Engine) (session : Session) (aggregator : Aggregator)
    (event : Option CandleEvent) : Engine × List Order :=
  let e := { e with session := some { session with aggregator } }
  match event with
  | none => (e, [])
  | some event =>
    match e.timeline.follow session.generation event with
    | .ok (timeline, change) => ({ e with timeline }, [.call change.call])
    | .error _ => (e, [])

/-- `on_tick`: a tick came on the subscription of the session. A sum that is too large is the end of
the engine, after the tick was shown. -/
def onTick (e : Engine) (tick : Tick) : Except Fault Engine × List Order :=
  match e.session with
  | none => (.ok e, [])
  | some session =>
    match session.aggregator.apply tick with
    | .ok (aggregator, event) =>
      let (e, orders) := e.followTick session aggregator event
      (.ok e, .call (.ticker tick) :: orders)
    | .error fault => (.error fault, [.call (.ticker tick)])

/-- `on_indicators`: indicators of a symbol were polled. Those of another symbol than the selected
one are dropped. -/
def onIndicators (e : Engine) (symbol : Symbol) (result : PollResult) : List Order :=
  if e.symbol? = some symbol then
    match result with
    | .ok points => [.call (.overlay (.ofPoints symbol points))]
    | .error error => [.call (.overlayError symbol error)]
  else []

/-- It is time for the next poll (`poll_indicators`, not forced). -/
def onTimer (e : Engine) (underway : Bool) : Engine × List Order := e.startPoll false underway

/-- `teardown`: the engine stops. -/
def teardown (e : Engine) (underway : Bool) : Engine × List Order :=
  ({ e with session := none, poll := none },
    e.closing ++
      match e.poll with
      | some poll => if underway then [.abortPoll poll] else []
      | none => [])

end Engine

end TickChart
