import TickChart.Feed.Script
import TickChart.Proofs.Frames

/-!
# What a subscription delivers

A script says what the other side does. As long as the owner lets the subscription run and somebody
takes the ticks, all that can be observed of it can be read off the script: connection by connection
one request and the ticks of the frames, in their order.

* `Attempt.observations`: what can be observed of an attempt.
* `Connection.run_happenings_of_some`, `run_happenings_of_none`: a frame is passed on if it brings a
  tick, and else changes nothing.
* `Connection.Ready`: the task can begin an attempt. `Ready.run_attempt`: it makes it, and can begin
  another one.
* `Connection.run_filter_ping`: it does not matter when pings are sent.
* `Connection.delivers_script`: what can be observed of a script, whenever pings are sent.
-/

namespace TickChart

/-! ## Reading observations -/

theorem ticksOf_append (a b : List Observation) : ticksOf (a ++ b) = ticksOf a ++ ticksOf b :=
  List.filterMap_append

theorem requestsOf_append (a b : List Observation) :
    requestsOf (a ++ b) = requestsOf a ++ requestsOf b := List.filterMap_append

/-- Who looks for something else does not notice pings. -/
theorem filterMap_filter_ping {β : Type} {f : Observation → Option β} (hf : f .ping = none)
    (seen : List Observation) : (seen.filter (· ≠ .ping)).filterMap f = seen.filterMap f := by
  rw [List.filterMap_filter]
  refine List.filterMap_congr fun o _ => ?_
  by_cases ho : o = .ping
  · rw [if_neg (by simpa using ho), ho, hf]
  · rw [if_pos (by simpa using ho)]

theorem ticksOf_filter_ping (seen : List Observation) :
    ticksOf (seen.filter (· ≠ .ping)) = ticksOf seen := filterMap_filter_ping rfl seen

theorem requestsOf_filter_ping (seen : List Observation) :
    requestsOf (seen.filter (· ≠ .ping)) = requestsOf seen := filterMap_filter_ping rfl seen

namespace Attempt

variable {symbol : Symbol}

/-- What can be observed of an attempt, pings apart. -/
def observations (symbol : Symbol) : Attempt → List Observation
  | refused _ => [.state .connecting, .attempt, .state .reconnecting]
  | accepted frames _ =>
    [.state .connecting, .attempt, .request (subscribeRequest symbol.product).text,
        .state .subscribed] ++
      (frames.filterMap (Frame.tick? symbol)).map .tick ++ [.state .reconnecting]

theorem ping_notMem_observations (attempt : Attempt) : .ping ∉ attempt.observations symbol := by
  cases attempt <;> simp [observations]

theorem ticksOf_observations (attempt : Attempt) :
    ticksOf (attempt.observations symbol) = attempt.ticks symbol := by
  cases attempt with
  | refused reason => rfl
  | accepted frames ending =>
    simp only [observations, ticksOf_append]
    simp only [ticksOf, List.filterMap_map]
    simp [ticks]

theorem requestsOf_observations (attempt : Attempt) :
    requestsOf (attempt.observations symbol) =
      if attempt.isAccepted then [(subscribeRequest symbol.product).text] else [] := by
  cases attempt with
  | refused reason => rfl
  | accepted frames ending => simp [requestsOf, observations, isAccepted, List.filterMap_map]

theorem ticksOf_script (attempts : List Attempt) :
    ticksOf (attempts.flatMap (observations symbol)) = attempts.flatMap (ticks symbol) := by
  rw [ticksOf, List.filterMap_flatMap]
  exact List.flatMap_congr fun attempt _ => attempt.ticksOf_observations

theorem requestsOf_script (attempts : List Attempt) :
    requestsOf (attempts.flatMap (observations symbol)) =
      (attempts.filter isAccepted).map fun _ => (subscribeRequest symbol.product).text := by
  induction attempts with
  | nil => rfl
  | cons attempt attempts ih =>
    rw [List.flatMap_cons, requestsOf_append, attempt.requestsOf_observations, ih]
    cases hattempt : attempt.isAccepted <;> simp [hattempt]

end Attempt

namespace Connection

variable {c : Connection} {hs : List Happening}

/-! ## Frames -/

/-- A frame that brings no tick leaves all as it is. -/
theorem run_happenings_of_none {frame : Frame} (hstage : c.stage = .reading)
    (hnone : frame.tick? c.symbol = none) : c.run frame.happenings = (c, []) := by
  cases frame with
  | other => simp [Frame.happenings, run_cons, step]
  | text frame received =>
    have hsame : c.onText frame received = c := by
      simp only [Frame.tick?] at hnone
      simp only [onText]
      split
      · next t ht => simp [ht] at hnone
      · rfl
    simp [Frame.happenings, run_cons, step, hstage, hsame]

/-- A frame that brings a tick is passed on. -/
theorem run_happenings_of_some {frame : Frame} {t : Tick} (hstage : c.stage = .reading)
    (hthere : c.received) (hsome : frame.tick? c.symbol = some t) :
    c.run frame.happenings = (c, [.tick t]) := by
  obtain ⟨symbol, state, stage, stopping, received, backoff⟩ := c
  obtain rfl : stage = .reading := hstage
  obtain rfl : received = true := hthere
  cases frame with
  | other => cases hsome
  | text frame received =>
    simp only [Frame.tick?] at hsome
    split at hsome
    · next t' ht =>
      cases hsome
      simp [Frame.happenings, run_cons, step, onText, ht]
    · cases hsome

theorem run_happenings_frames (hstage : c.stage = .reading) (hthere : c.received)
    (frames : List Frame) :
    c.run (frames.flatMap Frame.happenings) =
      (c, (frames.filterMap (Frame.tick? c.symbol)).map .tick) := by
  induction frames with
  | nil => rfl
  | cons frame frames ih =>
    rw [List.flatMap_cons, run_append]
    cases hframe : frame.tick? c.symbol with
    | none =>
      rw [run_happenings_of_none hstage hframe, ih, List.filterMap_cons_none hframe]
      rfl
    | some t =>
      rw [run_happenings_of_some hstage hthere hframe, ih, List.filterMap_cons_some hframe]
      rfl

/-! ## Attempts -/

/-- The task can begin an attempt: nobody has closed the subscription, and somebody takes the ticks.
-/
structure Ready (c : Connection) : Prop where
  stage : c.stage = .beginning
  state : c.state = .disconnected ∨ c.state = .reconnecting
  going : c.stopping = false
  received : c.received

theorem ready_initial (symbol : Symbol) (policy : ReconnectPolicy) :
    (initial symbol policy).Ready := ⟨rfl, .inl rfl, rfl, rfl⟩

/-- A connection is accepted, and the request is sent on it. -/
theorem Ready.run_opening (hc : c.Ready) :
    c.run Attempt.opening =
      ({ c with state := .subscribed, stage := .reading, backoff := c.backoff.reset },
        [.state .connecting, .attempt, .request c.requestText, .state .subscribed]) := by
  obtain ⟨symbol, state, stage, stopping, received, backoff⟩ := c
  obtain ⟨rfl, hstate, rfl, rfl⟩ := hc
  obtain rfl | rfl : state = .disconnected ∨ state = .reconnecting := hstate <;> rfl

/-- The task makes an attempt, and can begin another one afterwards. -/
theorem Ready.run_attempt (hc : c.Ready) (attempt : Attempt) :
    (c.run attempt.happenings).1.Ready ∧ (c.run attempt.happenings).1.symbol = c.symbol ∧
      (c.run attempt.happenings).2 = attempt.observations c.symbol := by
  cases attempt with
  | refused reason =>
    obtain ⟨symbol, state, stage, stopping, received, backoff⟩ := c
    obtain ⟨rfl, hstate, rfl, rfl⟩ := hc
    obtain rfl | rfl : state = .disconnected ∨ state = .reconnecting := hstate <;>
      exact ⟨⟨rfl, .inr rfl, rfl, rfl⟩, rfl, rfl⟩
  | accepted frames ending =>
    have hframes := run_happenings_frames
      (c := { c with state := .subscribed, stage := .reading, backoff := c.backoff.reset })
      rfl hc.received frames
    simp only [Attempt.happenings, run_append, hc.run_opening, hframes]
    exact ⟨⟨rfl, .inr rfl, hc.going, hc.received⟩, rfl, rfl⟩

theorem Ready.run_attempts (hc : c.Ready) (attempts : List Attempt) :
    (c.run (attempts.flatMap Attempt.happenings)).2 =
      attempts.flatMap (Attempt.observations c.symbol) := by
  induction attempts generalizing c with
  | nil => rfl
  | cons attempt attempts ih =>
    obtain ⟨hready, hsymbol, hseen⟩ := hc.run_attempt attempt
    rw [List.flatMap_cons, List.flatMap_cons, run_append, hseen, ih hready, hsymbol]

/-! ## Pings -/

/-- A ping does nothing to the subscription. -/
theorem step_pingSent (c : Connection) :
    (c.step .pingSent).1 = c ∧ (c.step .pingSent).2.filter (· ≠ .ping) = [] := by
  cases hstage : c.stage <;> simp [step, hstage]

/-- It does not matter when pings are sent, and whether they are. -/
theorem run_filter_ping :
    (c.run hs).1 = (c.run (hs.filter (· ≠ .pingSent))).1 ∧
      (c.run hs).2.filter (· ≠ .ping) =
        (c.run (hs.filter (· ≠ .pingSent))).2.filter (· ≠ .ping) := by
  induction hs generalizing c with
  | nil => exact ⟨rfl, rfl⟩
  | cons h hs ih =>
    by_cases hping : h = .pingSent
    · obtain ⟨hsame, hseen⟩ := step_pingSent c
      rw [hping, run_cons, hsame, List.filter_append, hseen, List.nil_append,
        List.filter_cons_of_neg (by simp)]
      exact ih
    · rw [List.filter_cons_of_pos (by simpa using hping), run_cons, run_cons, List.filter_append,
        List.filter_append]
      exact ⟨ih.1, congrArg _ ih.2⟩

/-! ## Every script -/

/-- **What a subscription delivers.** The other side refuses connections and accepts them, sends
whatever frames and ends the connections in whatever way, and the task sends pings whenever it
likes. As long as nobody closes the subscription and somebody takes the ticks: connection by
connection the task sends one request, always the same, and delivers the ticks of the frames, each
of them once and in their order; a frame that brings no tick changes nothing at all. -/
theorem delivers_script (symbol : Symbol) (policy : ReconnectPolicy) (attempts : List Attempt)
    (hs : List Happening)
    (hscript : hs.filter (· ≠ .pingSent) = attempts.flatMap Attempt.happenings) :
    ((initial symbol policy).run hs).2.filter (· ≠ .ping) =
        attempts.flatMap (Attempt.observations symbol) ∧
      ticksOf ((initial symbol policy).run hs).2 = attempts.flatMap (Attempt.ticks symbol) ∧
      requestsOf ((initial symbol policy).run hs).2 =
        (attempts.filter Attempt.isAccepted).map (fun _ =>
          (subscribeRequest symbol.product).text) ∧
      ∀ (c : Connection) (frame : Frame), c.symbol = symbol → c.stage = .reading →
        frame.tick? symbol = none → c.run frame.happenings = (c, []) := by
  have hseen : ((initial symbol policy).run hs).2.filter (· ≠ .ping) =
      attempts.flatMap (Attempt.observations symbol) := by
    rw [run_filter_ping.2, hscript, (ready_initial symbol policy).run_attempts]
    refine List.filter_eq_self.mpr fun o ho => ?_
    obtain ⟨attempt, -, ho⟩ := List.mem_flatMap.mp ho
    rw [decide_eq_true_iff]
    rintro rfl
    exact attempt.ping_notMem_observations ho
  refine ⟨hseen, ?_, ?_, fun c frame hsymbol hstage hnone => ?_⟩
  · rw [← ticksOf_filter_ping, hseen, Attempt.ticksOf_script]
  · rw [← requestsOf_filter_ping, hseen, Attempt.requestsOf_script]
  · exact run_happenings_of_none hstage (hsymbol ▸ hnone)

/-- A connection that is refused, and two that each bring a purchase among other frames; a ping is
sent in between. -/
theorem delivers_script_purchases :
    let trade : Frame := .text (Pipeline.tradeFrame "1") default
    let attempts : List Attempt :=
      [.refused "", .accepted [.other, trade, .text "" default] .closedByPeer,
        .accepted [trade] (.timeout default)]
    let hs : List Happening := (attempts.flatMap Attempt.happenings).insertIdx 10 .pingSent
    hs.filter (· ≠ .pingSent) = attempts.flatMap Attempt.happenings ∧
      ticksOf ((initial Aggregator.byMinute.symbol .standard).run hs).2 =
        [Aggregator.purchase 1 0, Aggregator.purchase 1 0] := by
  intro trade attempts hs
  have hscript : hs.filter (· ≠ .pingSent) = attempts.flatMap Attempt.happenings := by
    decide +kernel
  refine ⟨hscript, ?_⟩
  rw [(delivers_script Aggregator.byMinute.symbol .standard attempts hs hscript).2.1]
  decide +kernel

end Connection

end TickChart
