import TickChart.Feed.Connection

/-!
# Scripts

A script is what the other side of a subscription does, as long as the owner lets it run: it refuses
connections, or accepts them, sends frames and ends them.

* `Frame`: what is sent on a connection.
* `Attempt`: one attempt to connect, and what becomes of it.
* `Attempt.happenings`: what happens to the subscription in it.
* `Attempt.ticks`: the ticks of its frames.
-/

namespace TickChart

/-- What is sent on a connection. -/
inductive Frame where
  | text (frame : String) (received : Instant)
  /-- Bytes, a ping or the answer to one. -/
  | other
deriving DecidableEq

namespace Frame

/-- What a frame does to a subscription: if it brings a tick, that is delivered before the next
frame is read. -/
def happenings : Frame → List Happening
  | text frame received => [.text frame received, .delivered]
  | other => [.otherFrame]

/-- The tick of a frame on the subscription to a symbol. -/
def tick? (symbol : Symbol) : Frame → Option Tick
  | text frame received =>
    match FeedMessage.ofText? frame symbol.product symbol received with
    | .ok (.tick tick) => some tick
    | _ => none
  | other => none

end Frame

/-- One attempt to connect. -/
inductive Attempt where
  | refused (reason : String)
  /-- The connection is accepted, frames are sent on it, and it ends. -/
  | accepted (frames : List Frame) (ending : FeedError)
deriving DecidableEq

namespace Attempt

/-- What happens until a connection is there and the request is sent. -/
def opening : List Happening := [.announce, .attempt, .connected, .requestSent]

/-- What happens in an attempt, with the delay behind it. -/
def happenings : Attempt → List Happening
  | refused reason => [.announce, .attempt, .refused reason, .rested]
  | accepted frames ending =>
    opening ++ frames.flatMap Frame.happenings ++ [.lost ending, .rested]

/-- The ticks of an attempt's frames. -/
def ticks (symbol : Symbol) : Attempt → List Tick
  | refused _ => []
  | accepted frames _ => frames.filterMap (Frame.tick? symbol)

/-- The attempt leads to a connection. -/
def isAccepted : Attempt → Bool
  | refused _ => false
  | accepted _ _ => true

end Attempt

end TickChart
