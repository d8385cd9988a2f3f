import TickChart.Feed.Backoff
import TickChart.Feed.Message

/-!
# Connections

A subscription to the feed keeps a connection alive: it connects, sends its request, passes ticks
on, and begins anew after a delay when the connection ends. Only its owner ends it, by closing it.
If nobody takes the ticks any more it rests, without a connection, until it is closed.

* `FeedError`: why a connection ended; `FeedError.message`: the text for each reason.
* `LinkState`: what the owner sees of it.
* `Stage`: where the task of the subscription stands.
* `Happening`: what can happen next, to the task or by its owner.
* `Connection.step`: the connection after a happening, and what could be observed of it.
* `Observation`: states, attempts to connect, requests and ticks. A state is observed once and not
  again until another one has taken its place; `closed` is never replaced.
-/

namespace TickChart

/-! ## Failures -/

/-- Why a connection to the feed ended, or did not come about. -/
inductive FeedError where
  /-- There was no connection. -/
  | connect (url reason : String)
  /-- The request could not be sent. -/
  | subscribe (reason : String)
  /-- The connection broke. -/
  | transport (reason : String)
  /-- Nothing came for this long. -/
  | timeout (silence : Duration)
  /-- The other side closed the connection. -/
  | closedByPeer
deriving DecidableEq

/-- The text of an error. -/
def FeedError.message : FeedError → String
  | connect url reason => "failed to connect to " ++ url ++ ": " ++ reason
  | subscribe reason => "failed to send subscription request: " ++ reason
  | transport reason => "WebSocket transport error: " ++ reason
  | timeout silence =>
    "WebSocket read timeout: no data received for " ++ String.ofList (Text.digits silence.seconds)
      ++ " seconds"
  | closedByPeer => "WebSocket closed by peer"

/-! ## States and steps -/

/-- What the owner of a subscription sees of it (`ConnectionState`). -/
inductive LinkState where
  | disconnected
  | connecting
  | subscribed
  | reconnecting
  | closed
deriving DecidableEq

/-- Where the task of a subscription stands. -/
inductive Stage where
  /-- Before an attempt to connect. -/
  | beginning
  /-- The attempt was announced, and the owner may have asked to stop. -/
  | announced
  /-- Waiting for a connection. -/
  | connecting
  /-- Connected; the request has to be sent. -/
  | requesting
  /-- Waiting for frames. -/
  | reading
  /-- Waiting for room for a tick. -/
  | delivering (tick : Tick)
  /-- Waiting until the next attempt. -/
  | resting (delay : Duration)
  /-- The task has ended. -/
  | ended
deriving DecidableEq

/-- What can happen next. -/
inductive Happening where
  /-- The owner closes the subscription: first the state is set, then the task is asked to stop. -/
  | close
  | askToStop
  /-- The one who takes the ticks goes away. -/
  | receiverGone
  /-- The task begins, and announces an attempt to connect. -/
  | announce
  /-- The task makes the attempt that it announced, unless it has been asked to stop. -/
  | attempt
  /-- The task heeds that it has been asked to stop. -/
  | heed
  /-- The attempt succeeds or fails. -/
  | connected
  | refused (reason : String)
  /-- The request is sent, or cannot be sent. -/
  | requestSent
  | requestFailed (reason : String)
  /-- A text frame comes. -/
  | text (frame : String) (received : Instant)
  /-- A frame comes that is neither text nor the end. -/
  | otherFrame
  /-- It is time for a ping, which is sent or cannot be sent. -/
  | pingSent
  | pingFailed (reason : String)
  /-- The connection ends. -/
  | lost (error : FeedError)
  /-- There is room for the tick, or nobody to take it. -/
  | delivered
  | undeliverable
  /-- The delay is over. -/
  | rested
deriving DecidableEq

/-- What can be observed of a subscription. -/
inductive Observation where
  | state (state : LinkState)
  | attempt
  | request (text : String)
  | tick (tick : Tick)
  | ping
deriving DecidableEq

/-- A subscription to the feed (`TickSource`, with the task of `run_connection_loop`). -/
structure Connection where
  symbol : Symbol
  state : LinkState
  stage : Stage
  /-- The task has been asked to stop. -/
  stopping : Bool
  /-- Somebody takes the ticks. -/
  received : Bool
  backoff : Backoff
deriving DecidableEq

namespace Connection

/-- `TickSource.subscribe`: a subscription that has just been made. -/
def initial (symbol : Symbol) (policy : ReconnectPolicy) : Connection where
  symbol
  state := .disconnected
  stage := .beginning
  stopping := false
  received := true
  backoff := .start policy

/-- The text of the request (`SubscribeRequest.to_json`). -/
def requestText (c : Connection) : String := (subscribeRequest c.symbol.product).text

/-- `transition`: the task publishes a state. Once the subscription is closed no other one is
published. -/
def publish (c : Connection) (state : LinkState) : Connection × List Observation :=
  if c.state = .closed ∨ c.state = state then (c, [])
  else ({ c with state }, [.state state])

/-- The connection has ended: `run_connection_loop` makes the next attempt after a delay. -/
def retire (c : Connection) : Connection × List Observation :=
  let (d, seen) := c.publish .reconnecting
  ({ d with stage := .resting c.backoff.delay, backoff := c.backoff.grow }, seen)

/-- The task ends because it has been asked to (`shutdown_requested`). -/
def stop (c : Connection) : Connection × List Observation :=
  let (d, seen) := c.publish .closed
  ({ d with stage := .ended }, seen)

/-- What a text frame brings in `run_session`. Only a trade leads on; every other frame leaves all
as it is. -/
def onText (c : Connection) (frame : String) (received : Instant) : Connection :=
  match FeedMessage.ofText? frame c.symbol.product c.symbol received with
  | .ok (.tick tick) => { c with stage := .delivering tick }
  | _ => c

/-- The task is in the middle of a connection or waits for the next one. -/
def isWaiting : Stage → Bool
  | .connecting | .requesting | .reading | .delivering _ | .resting _ => true
  | .beginning | .announced | .ended => false

/-- The connection after a happening, and what could be observed. What cannot happen at the present
stage changes nothing.

`attempt` is one step: the check for the wish to stop and the start of `run_session` lie in one poll
of the task and count as one. `close_inner` is two, `close` and `askToStop`, since the state that it
sets can be seen before the task is asked to stop. -/
def step (c : Connection) (h : Happening) : Connection × List Observation :=
  match h, c.stage with
  | .close, _ => c.publish .closed
  | .askToStop, _ => ({ c with stopping := true }, [])
  | .receiverGone, _ => ({ c with received := false }, [])
  | .announce, .beginning =>
    let (d, seen) := c.publish .connecting
    ({ d with stage := .announced }, seen)
  | .attempt, .announced =>
    if c.stopping then c.stop else ({ c with stage := .connecting }, [.attempt])
  | .heed, stage => if c.stopping && isWaiting stage then c.stop else (c, [])
  | .connected, .connecting => ({ c with stage := .requesting }, [])
  | .refused _, .connecting => c.retire
  | .requestSent, .requesting =>
    let (d, seen) := c.publish .subscribed
    ({ d with stage := .reading, backoff := c.backoff.reset }, .request c.requestText :: seen)
  | .requestFailed _, .requesting => c.retire
  | .text frame received, .reading => (c.onText frame received, [])
  | .pingSent, .reading => (c, [.ping])
  | .pingFailed _, .reading => c.retire
  | .lost _, .reading => c.retire
  | .delivered, .delivering tick =>
    if c.received then ({ c with stage := .reading }, [.tick tick]) else (c, [])
  | .undeliverable, .delivering _ =>
    if c.received then (c, [])
    else
      let (d, seen) := c.publish .disconnected
      ({ d with stage := .ended }, seen)
  | .rested, .resting _ => ({ c with stage := .beginning }, [])
  | _, _ => (c, [])

/-- The connection after happenings, from the first to the last, and what could be observed. -/
def run (c : Connection) : List Happening → Connection × List Observation
  | [] => (c, [])
  | h :: hs =>
    let (d, seen) := c.step h
    let (e, more) := d.run hs
    (e, seen ++ more)

@[simp] theorem run_nil (c : Connection) : c.run [] = (c, []) := rfl

theorem run_cons (c : Connection) (h : Happening) (hs : List Happening) :
    c.run (h :: hs) = (((c.step h).1.run hs).1, (c.step h).2 ++ ((c.step h).1.run hs).2) := rfl

theorem run_append (c : Connection) (hs more : List Happening) :
    c.run (hs ++ more) =
      (((c.run hs).1.run more).1, (c.run hs).2 ++ ((c.run hs).1.run more).2) := by
  induction hs generalizing c with
  | nil => simp
  | cons h hs ih => simp [run_cons, ih]

end Connection

/-- The ticks among observations, in order. -/
def ticksOf (seen : List Observation) : List Tick :=
  seen.filterMap fun
    | .tick tick => some tick
    | _ => none

/-- The states among observations, in order. -/
def statesOf (seen : List Observation) : List LinkState :=
  seen.filterMap fun
    | .state state => some state
    | _ => none

/-- The texts of the requests among observations, in order. -/
def requestsOf (seen : List Observation) : List String :=
  seen.filterMap fun
    | .request text => some text
    | _ => none

end TickChart
