import TickChart.Chart.Engine
import TickChart.Config.Settings

/-!
# An engine among its tasks

The engine shares its world with tasks that run beside it: the subscriptions deliver ticks, the
loads and the polls deliver results, and a timer asks for polls. What they deliver waits in queues,
one for the ticks of each subscription and one for the results of each kind, until the engine
handles it. Nothing decides here in which order: that is left to the list of occurrences.

* `Desk`: the engine, the tasks and the queues.
* `Occurrence`: what can happen next, in the engine or beside it.
* `Desk.step`: the desk after an occurrence, and the orders that the engine gave. An occurrence that
  cannot happen changes nothing.
* `Desk.settle`: the engine handles what waits for it until nothing is left.
-/

namespace TickChart

/-- What has become of a request. -/
inductive TaskState where
  | underway
  | answered
  | aborted
deriving DecidableEq

/-- A task that is given up, unless it has been answered. -/
def TaskState.abort : TaskState → TaskState
  | .underway => .aborted
  | s => s

/-- The ticks of a subscription on their way to the engine. -/
structure TickQueue where
  symbol : Symbol
  /-- The ticks that wait, the oldest first. -/
  ticks : List Tick
  /-- The engine has closed the subscription. -/
  closed : Bool
  /-- The feed delivers no more. -/
  ended : Bool
deriving DecidableEq

namespace TickQueue

/-- The queue after its subscription was closed: what waited in it is lost. -/
def close (q : TickQueue) : TickQueue := { q with closed := true, ticks := [] }

/-- The feed has gone away. -/
def finish (q : TickQueue) : TickQueue := { q with ended := true }

/-- The queue has room for one more tick, and someone to deliver it. -/
def takes (q : TickQueue) (capacity : Nat) : Bool :=
  !q.closed && !q.ended && q.ticks.length < capacity

/-- One more tick waits. -/
def push (q : TickQueue) (tick : Tick) : TickQueue := { q with ticks := q.ticks ++ [tick] }

/-- The oldest tick does not wait any more. -/
def pop (q : TickQueue) : TickQueue := { q with ticks := q.ticks.tail }

end TickQueue

/-- The loading of a history. -/
structure LoadTask where
  generation : Generation
  selection : Selection
  state : TaskState
deriving DecidableEq

/-- The load is given up. -/
def LoadTask.abort (t : LoadTask) : LoadTask := { t with state := t.state.abort }

/-- The load is answered. -/
def LoadTask.answer (t : LoadTask) : LoadTask := { t with state := .answered }

/-- The polling of indicators. -/
structure PollTask where
  symbol : Symbol
  state : TaskState
deriving DecidableEq

/-- The poll is given up. -/
def PollTask.abort (t : PollTask) : PollTask := { t with state := t.state.abort }

/-- The poll is answered. -/
def PollTask.answer (t : PollTask) : PollTask := { t with state := .answered }

/-- A history that waits to be handled. -/
structure LoadedHistory where
  generation : Generation
  selection : Selection
  result : HistoryResult

/-- Indicators that wait to be handled. -/
structure PolledIndicators where
  symbol : Symbol
  result : PollResult

/-- Whether the engine runs, and if not why. -/
inductive Condition where
  | running
  | stopped
  /-- A fault ended the engine in the middle of its work. -/
  | broken (fault : Fault)
deriving DecidableEq

/-- An engine, the tasks beside it, and what waits between them. -/
structure Desk where
  engine : Engine
  condition : Condition
  feeds : List TickQueue
  loads : List LoadTask
  polls : List PollTask
  histories : List LoadedHistory
  indicators : List PolledIndicators
  /-- The nanoseconds since the start. -/
  now : Nat
  /-- When the timer asks for the next poll. -/
  nextPoll : Nat
  /-- The nanoseconds between two polls. -/
  period : Nat
  /-- The number of ticks that a queue holds. -/
  capacity : Nat

/-- What can happen next. -/
inductive Occurrence where
  /-- The engine handles a command. -/
  | select (selection : Selection)
  | retry
  | shutdown
  /-- The feed sends a tick on a subscription. -/
  | send (subscription : Nat) (tick : Tick)
  /-- The feed of a subscription goes away. -/
  | endFeed (subscription : Nat)
  /-- A load or a poll is answered; its result waits for the engine. -/
  | answerLoad (load : Nat) (result : HistoryResult)
  | answerPoll (poll : Nat) (result : PollResult)
  /-- The engine handles what has waited longest. -/
  | takeHistory
  | takeIndicators
  | takeTick
  /-- The engine handles the timer, which is due. -/
  | timer
  /-- Time passes. -/
  | wait (nanos : Nat)

namespace Desk

/-- `ChartEngine.spawn`: an engine that was just started. The timer is due at once. -/
def initial (settings : Settings) : Desk where
  engine := .initial
  condition := .running
  feeds := []
  loads := []
  polls := []
  histories := []
  indicators := []
  now := 0
  nextPoll := 0
  period := (nonZero settings.pollInterval).nanos
  capacity := max settings.feed.bufferSize 1

/-- What the owner of an engine is told that does not run any more (`EngineError`). -/
def stoppedMessage : String := "chart engine has stopped"

/-- The engine runs. -/
def isRunning (d : Desk) : Bool := d.condition = .running

/-- The poll that was started last has not been answered or given up. -/
def pollUnderway (d : Desk) : Bool :=
  match d.engine.poll with
  | some poll => (d.polls[poll]?.map PollTask.state) = some .underway
  | none => false

/-- The desk after an order. -/
def perform (d : Desk) : Order → Desk
  | .call _ => d
  | .subscribe _ symbol => { d with feeds := d.feeds ++ [⟨symbol, [], false, false⟩] }
  | .close subscription => { d with feeds := d.feeds.modify subscription .close }
  | .load _ generation selection =>
    { d with loads := d.loads ++ [⟨generation, selection, .underway⟩] }
  | .abortLoad load =>
    { d with loads := d.loads.modify load .abort }
  | .poll _ symbol => { d with polls := d.polls ++ [⟨symbol, .underway⟩] }
  | .abortPoll poll =>
    { d with polls := d.polls.modify poll .abort }

/-- The desk after orders, from the first to the last. -/
def performAll (d : Desk) (orders : List Order) : Desk := orders.foldl perform d

/-- The desk after a handler of the engine. -/
def afterHandler (d : Desk) (result : Engine × List Order) : Desk × List Order :=
  (({ d with engine := result.1 }).performAll result.2, result.2)

/-- The desk after a fault: the session ends with the engine, a poll does not. -/
def afterFault (d : Desk) (fault : Fault) (orders : List Order) : Desk × List Order :=
  let orders := orders ++ d.engine.closing
  let ended := { d with
    condition := .broken fault
    engine := { d.engine with session := none }
    histories := []
    indicators := [] }
  (ended.performAll orders, orders)

/-- The desk after the engine has stopped (`teardown`). -/
def afterShutdown (d : Desk) : Desk × List Order :=
  let (d, orders) := d.afterHandler (d.engine.teardown d.pollUnderway)
  ({ d with condition := .stopped, histories := [], indicators := [] }, orders)

/-- The queue of the present session, from which `next_tick` takes. -/
def queue? (d : Desk) : Option TickQueue :=
  d.engine.session.bind fun s => d.feeds[s.subscription]?

/-- The next time at which the timer is due, when it is handled now. If it is handled more than
five milliseconds late, the period begins anew. -/
def nextDue (d : Desk) : Nat :=
  if d.nextPoll + 5000000 < d.now then d.now + d.period else d.nextPoll + d.period

/-- The engine handles the oldest tick of the present session (`next_tick`, then `on_tick`). -/
def handleTick (d : Desk) : Desk × List Order :=
  match d.engine.session, d.queue? with
  | some session, some ⟨_, tick :: _, _, _⟩ =>
    let taken := { d with feeds := d.feeds.modify session.subscription .pop }
    match d.engine.onTick tick with
    | (.ok engine, orders) => taken.afterHandler (engine, orders)
    | (.error fault, orders) => taken.afterFault fault orders
  | _, _ => (d, [])

/-- The engine handles the oldest history (`on_history`). -/
def handleHistory (d : Desk) : Desk × List Order :=
  match d.histories with
  | [] => (d, [])
  | h :: rest =>
    { d with histories := rest }.afterHandler (d.engine.onHistory h.generation h.selection h.result)

/-- The engine handles the oldest indicators (`on_indicators`). -/
def handleIndicators (d : Desk) : Desk × List Order :=
  match d.indicators with
  | [] => (d, [])
  | i :: rest =>
    { d with indicators := rest }.afterHandler
      (d.engine, d.engine.onIndicators i.symbol i.result)

/-- The engine does something, if it runs. -/
def whenRunning (d : Desk) (act : Desk → Desk × List Order) : Desk × List Order :=
  if d.isRunning then act d else (d, [])

/-- A load is answered (the task of `spawn_history`). The answer to one that was given up reaches
nobody. -/
def answerLoad (d : Desk) (load : Nat) (result : HistoryResult) : Desk :=
  let answered := { d with loads := d.loads.modify load .answer }
  match d.loads[load]? with
  | some ⟨generation, selection, .underway⟩ =>
    if d.isRunning then
      { answered with histories := d.histories ++ [⟨generation, selection, result⟩] }
    else answered
  | _ => answered

/-- A poll is answered (the task of `poll_indicators`). The answer to one that was given up reaches
nobody. -/
def answerPoll (d : Desk) (poll : Nat) (result : PollResult) : Desk :=
  let answered := { d with polls := d.polls.modify poll .answer }
  match d.polls[poll]? with
  | some ⟨symbol, .underway⟩ =>
    if d.isRunning then
      { answered with indicators := d.indicators ++ [⟨symbol, result⟩] }
    else answered
  | _ => answered

/-- The desk after an occurrence, and the orders that the engine gave in it: a round of
`ChartEngine.run`, or something beside the engine. -/
def step (d : Desk) : Occurrence → Desk × List Order
  | .select selection =>
    d.whenRunning fun d => d.afterHandler (d.engine.select selection d.pollUnderway)
  | .retry => d.whenRunning fun d => d.afterHandler (d.engine.retry d.pollUnderway)
  | .shutdown => d.whenRunning afterShutdown
  | .send subscription tick =>
    match d.feeds[subscription]? with
    | some q =>
      if q.takes d.capacity then
        ({ d with feeds := d.feeds.modify subscription (·.push tick) }, [])
      else (d, [])
    | none => (d, [])
  | .endFeed subscription =>
    ({ d with feeds := d.feeds.modify subscription .finish }, [])
  | .answerLoad load result => (d.answerLoad load result, [])
  | .answerPoll poll result => (d.answerPoll poll result, [])
  | .takeHistory => d.whenRunning handleHistory
  | .takeIndicators => d.whenRunning handleIndicators
  | .takeTick => d.whenRunning handleTick
  | .timer =>
    d.whenRunning fun d =>
      if d.nextPoll ≤ d.now then
        { d with nextPoll := d.nextDue }.afterHandler (d.engine.onTimer d.pollUnderway)
      else (d, [])
  | .wait nanos => ({ d with now := d.now + nanos }, [])

/-- The desk after occurrences, from the first to the last, and the orders of all of them. -/
def run (d : Desk) : List Occurrence → Desk × List Order
  | [] => (d, [])
  | o :: os =>
    let (next, orders) := d.step o
    let (last, more) := next.run os
    (last, orders ++ more)

/-- What the engine turns to next, while something waits for it. -/
def waiting? (d : Desk) : Option Occurrence :=
  if !d.isRunning then none
  else if !d.histories.isEmpty then some .takeHistory
  else if !d.indicators.isEmpty then some .takeIndicators
  else if (d.queue?.map (·.ticks.isEmpty)) = some false then some .takeTick
  else if d.nextPoll ≤ d.now then some .timer
  else none

/-- The number of things that wait. -/
def backlog (d : Desk) : Nat :=
  d.histories.length + d.indicators.length + (d.feeds.map (·.ticks.length)).foldl (· + ·) 0

/-- The engine handles at most `fuel` of the things that wait. -/
def settleWithin : Nat → Desk → Desk × List Order
  | 0, d => (d, [])
  | fuel + 1, d =>
    match d.waiting? with
    | none => (d, [])
    | some o =>
      let (next, orders) := d.step o
      let (last, more) := settleWithin fuel next
      (last, orders ++ more)

/-- The engine handles everything that waits, and the timer if it is due. -/
def settle (d : Desk) : Desk × List Order := settleWithin (d.backlog + 2) d

@[simp] theorem run_nil (d : Desk) : d.run [] = (d, []) := rfl

theorem run_cons (d : Desk) (o : Occurrence) (os : List Occurrence) :
    d.run (o :: os) =
      (((d.step o).1.run os).1, (d.step o).2 ++ ((d.step o).1.run os).2) := rfl

end Desk

end TickChart
