import TickChart.Chart.Engine
import TickChart.Proofs.Timeline

/-!
# Runs of an engine

An engine handles what comes to it in any order.

* `Engine.Input`, `Engine.handle`: what an engine has to handle, and its answer to it.
* `Engine.run`: the engine after inputs, and all the orders that it gave. A fault ends the run.
  `run_append_of_ok` and `run_concat_ok` put runs together, and take them apart from behind.
* `calls_start`, `calls_startPoll`: the calls of a start; a poll makes none.
* `startPoll_frame`, `onTick_eq`, `onHistory_loaded`, `onHistory_stale`: what the handlers do to the
  timeline and to the session.
-/

namespace TickChart.Engine

/-- What an engine has to handle. Where a poll may be started, the input says whether the last one
is still under way. -/
inductive Input where
  | select (selection : Selection) (underway : Bool)
  | retry (underway : Bool)
  | history (generation : Generation) (selection : Selection) (result : HistoryResult)
  | tick (tick : Tick)
  | indicators (symbol : Symbol) (result : PollResult)
  | timer (underway : Bool)

/-- The answer of a handler that cannot fault. -/
def answer (result : Engine × List Order) : Except Fault Engine × List Order :=
  (.ok result.1, result.2)

/-- The engine after an input, unless there was a fault, and its orders. -/
def handle (e : Engine) : Input → Except Fault Engine × List Order
  | .select selection underway => answer (e.select selection underway)
  | .retry underway => answer (e.retry underway)
  | .history generation selection result => answer (e.onHistory generation selection result)
  | .tick tick => e.onTick tick
  | .indicators symbol result => answer (e, e.onIndicators symbol result)
  | .timer underway => answer (e.onTimer underway)

/-- The engine after inputs, from the first to the last, and all its orders. -/
def run (e : Engine) : List Input → Except Fault Engine × List Order
  | [] => (.ok e, [])
  | input :: inputs =>
    match e.handle input with
    | (.ok next, orders) => ((next.run inputs).1, orders ++ (next.run inputs).2)
    | (.error fault, orders) => (.error fault, orders)

@[simp] theorem run_nil (e : Engine) : e.run [] = (.ok e, []) := rfl

theorem run_cons_of_ok {e next : Engine} {input : Input} {orders : List Order}
    (h : e.handle input = (.ok next, orders)) (inputs : List Input) :
    e.run (input :: inputs) = ((next.run inputs).1, orders ++ (next.run inputs).2) := by
  simp only [run, h]

theorem run_cons_of_error {e : Engine} {input : Input} {orders : List Order} {fault : Fault}
    (h : e.handle input = (.error fault, orders)) (inputs : List Input) :
    e.run (input :: inputs) = (.error fault, orders) := by
  simp only [run, h]

theorem run_append_of_ok {e next : Engine} {inputs : List Input} {orders : List Order}
    (h : e.run inputs = (.ok next, orders)) (more : List Input) :
    e.run (inputs ++ more) = ((next.run more).1, orders ++ (next.run more).2) := by
  induction inputs generalizing e orders with
  | nil => cases h; rfl
  | cons input inputs ih =>
    simp only [run] at h
    split at h
    · next next' orders' hstep =>
      obtain ⟨hstate, horders⟩ := Prod.mk.inj h
      rw [List.cons_append, run_cons_of_ok hstep, ih (Prod.ext hstate rfl), ← horders,
        List.append_assoc]
    · cases h

/-- A run that ends with an input is a run up to there, and the handling of that input. -/
theorem run_concat_ok {e last : Engine} {inputs : List Input} {input : Input} {orders : List Order}
    (h : e.run (inputs ++ [input]) = (.ok last, orders)) :
    ∃ next first more, e.run inputs = (.ok next, first) ∧
      next.handle input = (.ok last, more) ∧ orders = first ++ more := by
  induction inputs generalizing e orders with
  | nil =>
    rw [List.nil_append, run] at h
    split at h
    · next next' orders' hstep =>
      cases h
      exact ⟨e, [], orders', rfl, hstep, List.append_nil _⟩
    · cases h
  | cons input' inputs ih =>
    rw [List.cons_append, run] at h
    split at h
    · next next' orders' hstep =>
      obtain ⟨hstate, rfl⟩ := Prod.mk.inj h
      obtain ⟨next, first, more, hrun, hlast, horders⟩ := ih (Prod.ext hstate rfl)
      refine ⟨next, orders' ++ first, more, by rw [run_cons_of_ok hstep, hrun], hlast, ?_⟩
      rw [List.append_assoc]
      exact congrArg (orders' ++ ·) horders
    · cases h

/-! ## Calls -/

theorem calls_closing (e : Engine) : calls e.closing = [] := by
  simp only [closing]
  split <;> rfl

theorem calls_map_call (cs : List SurfaceCall) : calls (cs.map .call) = cs := by
  induction cs with
  | nil => rfl
  | cons c cs ih => exact congrArg (c :: ·) ih

/-- A poll is nothing to show. -/
theorem calls_startPoll (e : Engine) (force underway : Bool) :
    calls (e.startPoll force underway).2 = [] := by
  simp only [startPoll]
  split
  · rfl
  · split
    · split
      · rfl
      · cases underway <;> rfl
    · rfl

theorem calls_start (e : Engine) (selection : Selection) :
    calls (e.start selection).2 = [.replaceAll [], .loadState selection .loading] := by
  simp only [start, calls_append, calls_closing]
  rfl

/-! ## States -/

/-- A poll changes neither the timeline nor the session. -/
theorem startPoll_frame (e : Engine) (force underway : Bool) :
    (e.startPoll force underway).1.timeline = e.timeline ∧
      (e.startPoll force underway).1.session = e.session ∧
      (e.startPoll force underway).1.selection = e.selection := by
  simp only [startPoll]
  split
  · exact ⟨rfl, rfl, rfl⟩
  · split
    · split <;> exact ⟨rfl, rfl, rfl⟩
    · exact ⟨rfl, rfl, rfl⟩

/-- What a tick does, when its sum is not too large: the aggregator of the session takes it up, and
the timeline follows what came of it. -/
theorem onTick_eq {e : Engine} {session : Session} {tick : Tick} {aggregator : Aggregator}
    {event : Option CandleEvent} (hs : e.session = some session)
    (ha : session.aggregator.apply tick = .ok (aggregator, event)) :
    (e.onTick tick).1 = .ok { e with
      session := some { session with aggregator }
      timeline := e.timeline.afterEvent session.generation event } := by
  simp only [onTick, hs, ha, followTick, Timeline.afterEvent, Timeline.after]
  cases event with
  | none => rfl
  | some event => simp only []; split <;> simp_all

/-- What the history of the present generation does: it replaces the series, and the newer ones of
the live candles go behind it. -/
theorem onHistory_loaded (e : Engine) (selection : Selection) (candles : List Candle) :
    let replayed := replay ⟨e.timeline.generation, Series.ofCandles candles⟩
      (newerThan (Series.ofCandles candles) e.timeline.series)
    (e.onHistory e.timeline.generation selection (.ok (.loaded candles))).1 =
        { e with timeline := replayed.1 } ∧
      calls (e.onHistory e.timeline.generation selection (.ok (.loaded candles))).2 =
        .replaceAll (Series.ofCandles candles) :: .loadState selection .ready :: replayed.2 := by
  simp only [onHistory, ne_eq, not_true_eq_false, ↓reduceIte, Timeline.reset]
  refine ⟨trivial, ?_⟩
  exact congrArg (fun cs => .replaceAll (Series.ofCandles candles) ::
    .loadState selection .ready :: cs) (calls_map_call _)

/-- A history of another generation than the present one does nothing. -/
theorem onHistory_stale {e : Engine} {generation : Generation}
    (h : generation ≠ e.timeline.generation) (selection : Selection) (result : HistoryResult) :
    e.onHistory generation selection result = (e, []) := by
  simp only [onHistory, if_pos h]

end TickChart.Engine
