import TickChart.Proofs.Requests

/-!
# Moves of a desk

What can happen at a desk, where nothing is taken for granted of the loads: the result of a load
that was given up may still come, and may overtake others that wait.

* `Move`, `Desk.moved`: what can happen next, and all that happens then.
* `Desk.Effect`: all that a move can do. `Desk.effect_moved` proves it of every move.
* `Trace`: a desk, and what has happened at it so far.
-/

namespace TickChart

/-- What can happen next, where nothing is taken for granted of the loads: a load may also be
answered after it was given up, and its result may overtake others that wait. -/
inductive Move where
  | usual (occurrence : Occurrence)
  | late (load : Nat) (result : HistoryResult) (place : Nat)

/-- A desk, and what has happened at it so far, each kind of thing in its order. -/
structure Trace where
  desk : Desk
  /-- What the engine ordered. -/
  orders : List Order := []
  /-- The selections that it started on a command. -/
  started : List Selection := []
  /-- The ticks that were sent, each with the number of its subscription. -/
  sent : List (Nat × Tick) := []
  /-- The ticks that were fed to an aggregator, each with the generation of its session. -/
  fed : List (Generation × Tick) := []
  /-- The histories that the engine handled. -/
  handled : List LoadedHistory := []

namespace Desk

/-- A load is answered for the first time, whether it was given up or not. Its result waits behind
`place` others. -/
def answerLate (d : Desk) (load : Nat) (result : HistoryResult) (place : Nat) : Desk :=
  match d.loads[load]? with
  | some t =>
    if d.isRunning ∧ t.state ≠ .answered then
      { d with
        loads := d.loads.modify load .answer
        histories := d.histories.take place ++
          ⟨t.generation, t.selection, result⟩ :: d.histories.drop place }
    else d
  | none => d

/-- The desk after a move, and the orders that the engine gave in it. -/
def move (d : Desk) : Move → Desk × List Order
  | .usual o => d.step o
  | .late load result place => (d.answerLate load result place, [])

/-- The selection that a move starts, if it is a command that does. -/
def startedBy (d : Desk) : Move → List Selection
  | .usual (.select selection) => if d.isRunning then [selection] else []
  | .usual .retry => if d.isRunning then d.engine.selection.toList else []
  | _ => []

/-- The tick that a move sends, if its subscription takes it. -/
def sentBy (d : Desk) : Move → List (Nat × Tick)
  | .usual (.send subscription tick) =>
    if (d.feeds[subscription]?).any (·.takes d.capacity) then [(subscription, tick)] else []
  | _ => []

/-- The tick that is next for the aggregator of the session. -/
def dueTick (d : Desk) : List (Generation × Tick) :=
  match d.engine.session, d.queue? with
  | some session, some ⟨_, tick :: _, _, _⟩ => [(session.generation, tick)]
  | _, _ => []

/-- The tick that a move feeds to the aggregator of the session. -/
def fedBy (d : Desk) : Move → List (Generation × Tick)
  | .usual .takeTick => if d.isRunning then d.dueTick else []
  | _ => []

/-- The history that a move lets the engine handle. -/
def handledBy (d : Desk) : Move → List LoadedHistory
  | .usual .takeHistory => if d.isRunning then d.histories.take 1 else []
  | _ => []

/-- All that happens in a move. -/
def moved (d : Desk) (m : Move) : Trace :=
  ⟨(d.move m).1, (d.move m).2, d.startedBy m, d.sentBy m, d.fedBy m, d.handledBy m⟩

end Desk

namespace Trace

/-- A desk after something, and the orders that were given in it. -/
def quiet (answer : Desk × List Order) : Trace := { desk := answer.1, orders := answer.2 }

/-- What has happened, with what happened next. -/
def append (t u : Trace) : Trace :=
  ⟨u.desk, t.orders ++ u.orders, t.started ++ u.started, t.sent ++ u.sent, t.fed ++ u.fed,
    t.handled ++ u.handled⟩

/-- Nothing has happened at a new desk. -/
def initial (settings : Settings) : Trace := { desk := .initial settings }

/-- What has happened after moves, from the first to the last. -/
def after (t : Trace) (moves : List Move) : Trace :=
  moves.foldl (fun t m => t.append (t.desk.moved m)) t

/-- What every move keeps holds after all moves. -/
theorem after_of_move {P : Trace → Prop} (hmove : ∀ t m, P t → P (t.append (t.desk.moved m)))
    {t : Trace} (h : P t) (moves : List Move) : P (t.after moves) := by
  induction moves generalizing t with
  | nil => exact h
  | cons m moves ih => exact ih (hmove t m h)

end Trace

namespace Desk

/-- What a start does, with whatever polls and with orders aside. -/
def afterStart (d : Desk) (selection : Selection) (poll : Option Nat) (count : Nat)
    (polls : List PollTask) (aside : List Order) : Trace where
  desk := { d with
    engine := { (d.engine.start selection).1 with poll, polls := count }
    loads := d.engine.abortIn d.loads ++
      [⟨d.engine.timeline.generation.next, selection, .underway⟩]
    feeds := d.engine.closeIn d.feeds ++ [⟨selection.symbol, [], false, false⟩]
    polls }
  orders := (d.engine.start selection).2 ++ aside
  started := [selection]

/-- All that a move can do to the engine, the subscriptions, the loads and the results that wait.
-/
inductive Effect (d : Desk) : Trace → Prop where
  /-- A selection is started. -/
  | start (selection : Selection) (poll : Option Nat) (count : Nat) (polls : List PollTask)
      (aside : List Order) (haside : ∀ o ∈ aside, o.Aside) :
      Effect d (d.afterStart selection poll count polls aside)
  /-- The engine stops, or a tick has broken it. -/
  | finish (poll : Option Nat) (condition : Condition) (feeds : List TickQueue)
      (polls : List PollTask) (orders : List Order) (fed : List (Generation × Tick))
      (hfeeds : feeds.length = d.feeds.length) (horders : AskNothing orders)
      (hfed : ∀ f ∈ fed, ∃ session, d.engine.session = some session ∧ f.1 = session.generation) :
      Effect d
        { desk := { d with
            engine := { d.engine with session := none, poll }
            condition, feeds
            loads := d.engine.abortIn d.loads
            polls, histories := [], indicators := [] }
          orders, fed }
  /-- The engine takes a tick of its session. -/
  | tick (session : Session) (q : TickQueue) (tick : Tick) (rest : List Tick)
      (aggregator : Aggregator) (event : Option CandleEvent) (polls : List PollTask)
      (aside : List Order) (haside : ∀ o ∈ aside, o.Aside)
      (hsession : d.engine.session = some session)
      (hqueue : d.feeds[session.subscription]? = some q) (hticks : q.ticks = tick :: rest)
      (happly : session.aggregator.apply tick = .ok (aggregator, event)) :
      Effect d
        { desk := { d with
            engine := { d.engine with
              session := some { session with aggregator }
              timeline := d.engine.timeline.afterEvent session.generation event }
            feeds := d.feeds.modify session.subscription .pop
            polls }
          orders := aside
          fed := [(session.generation, tick)] }
  /-- The engine handles a history. -/
  | history (h : LoadedHistory) (rest : List LoadedHistory) (timeline : Timeline)
      (polls : List PollTask) (aside : List Order) (haside : ∀ o ∈ aside, o.Aside)
      (hwaits : d.histories = h :: rest)
      (hgeneration : timeline.generation = d.engine.timeline.generation) :
      Effect d
        { desk := { d with engine := { d.engine with timeline }, histories := rest, polls }
          orders := aside
          handled := [h] }
  /-- A tick is sent. -/
  | send (subscription : Nat) (tick : Tick) (hlt : subscription < d.feeds.length) :
      Effect d
        { desk := { d with feeds := d.feeds.modify subscription (·.push tick) }
          sent := [(subscription, tick)] }
  /-- A load is answered, and its result waits. -/
  | answer (load : Nat) (task : LoadTask) (result : HistoryResult) (place : Nat)
      (hload : d.loads[load]? = some task) (hstate : task.state ≠ .answered) :
      Effect d
        { desk := { d with
            loads := d.loads.modify load .answer
            histories := d.histories.take place ++
              ⟨task.generation, task.selection, result⟩ :: d.histories.drop place } }
  /-- A load is answered, and nobody hears of it. -/
  | unheard (load : Nat) : Effect d { desk := { d with loads := d.loads.modify load .answer } }
  /-- The feed of a subscription goes away. -/
  | endFeed (subscription : Nat) :
      Effect d { desk := { d with feeds := d.feeds.modify subscription .finish } }
  /-- Something happens to the polls or to the time, or nothing at all. -/
  | beside (poll : Option Nat) (count : Nat) (polls : List PollTask)
      (indicators : List PolledIndicators) (now nextPoll : Nat) (aside : List Order)
      (haside : ∀ o ∈ aside, o.Aside) :
      Effect d
        { desk := { d with
            engine := { d.engine with poll, polls := count }
            polls, indicators, now, nextPoll }
          orders := aside }

variable {d : Desk}

theorem effect_nothing (d : Desk) : Effect d { desk := d } :=
  .beside d.engine.poll d.engine.polls d.polls d.indicators d.now d.nextPoll [] (by simp)

theorem effect_start {selection : Selection} {answer : Engine × List Order}
    (h : ∃ poll polls aside, answer =
        ({ (d.engine.start selection).1 with poll, polls },
          (d.engine.start selection).2 ++ aside) ∧ ∀ o ∈ aside, o.Aside) :
    Effect d { Trace.quiet (d.afterHandler answer) with started := [selection] } := by
  obtain ⟨poll, count, aside, rfl, haside⟩ := h
  rw [afterHandler_start d selection poll count haside]
  exact .start selection poll count _ aside haside

theorem length_closeIn (e : Engine) (feeds : List TickQueue) :
    (e.closeIn feeds).length = feeds.length := by
  simp only [Engine.closeIn]
  split
  · exact List.length_modify ..
  · rfl

theorem effect_afterShutdown (d : Desk) : Effect d (.quiet d.afterShutdown) := by
  have haside := d.engine.leavePoll_aside d.pollUnderway
  rw [afterShutdown_eq]
  exact .finish _ _ _ _ _ _ (length_closeIn _ _)
    (d.engine.askNothing_closing.append (.of_aside haside)) (by simp)

/-- A tick is fed to the aggregator of the session, and breaks the engine. -/
theorem effect_afterFault {session : Session} (hsession : d.engine.session = some session)
    (tick : Tick) (fault : Fault) {aside : List Order} (haside : ∀ o ∈ aside, o.Aside) :
    Effect d { Trace.quiet
        ({ d with feeds := d.feeds.modify session.subscription .pop }.afterFault fault aside) with
      fed := [(session.generation, tick)] } := by
  rw [afterFault_eq _ fault haside]
  refine .finish d.engine.poll _ _ _ _ _ ?_ ?_ (by simp [hsession])
  · rw [length_closeIn, List.length_modify]
  · exact (AskNothing.of_aside haside).append d.engine.askNothing_closing

theorem effect_handleTick (d : Desk) :
    Effect d { Trace.quiet d.handleTick with fed := d.dueTick } := by
  simp only [handleTick]
  split
  · next session symbol tick rest closed ended hsession hqueue =>
    have hdue : d.dueTick = [(session.generation, tick)] := by
      simp only [dueTick, hsession, hqueue]
    have hat : d.feeds[session.subscription]? = some ⟨symbol, tick :: rest, closed, ended⟩ := by
      simpa only [queue?, hsession, Option.bind_some] using hqueue
    have haside := (d.engine.onTick_calls tick).aside
    rw [hdue]
    -- The tick is fed either way, also where the sum of the volumes is too large.
    cases happly : session.aggregator.apply tick with
    | error fault =>
      have htick : d.engine.onTick tick = (.error fault, [.call (.ticker tick)]) := by
        simp only [Engine.onTick, hsession, happly]
      rw [htick] at haside
      simp only [htick]
      exact effect_afterFault hsession tick fault haside
    | ok answer =>
      obtain ⟨aggregator, event⟩ := answer
      obtain ⟨orders, htick⟩ : ∃ orders, d.engine.onTick tick = (.ok { d.engine with
          session := some { session with aggregator }
          timeline := d.engine.timeline.afterEvent session.generation event }, orders) :=
        ⟨_, Prod.ext (Engine.onTick_eq hsession happly) rfl⟩
      rw [htick] at haside
      simp only [htick]
      rw [afterHandler_aside _ _ haside]
      exact .tick session _ tick rest aggregator event _ orders haside hsession hat rfl happly
  · next hnone =>
    have hdue : d.dueTick = [] := by simp only [dueTick]
    rw [hdue]
    exact effect_nothing d

theorem effect_handleHistory (d : Desk) :
    Effect d { Trace.quiet d.handleHistory with handled := d.histories.take 1 } := by
  simp only [Trace.quiet, handleHistory]
  split
  · next hnone => simpa only [hnone, List.take_nil] using effect_nothing d
  · next h rest hwaits =>
    obtain ⟨timeline, hgeneration, hengine, hcalls⟩ :=
      d.engine.onHistory_eq h.generation h.selection h.result
    have haside := hcalls.aside
    have heq := afterHandler_aside { d with histories := rest } { d.engine with timeline } haside
    rw [← hengine] at heq
    simp only [hwaits, heq]
    rw [hengine]
    exact .history h rest timeline _ _ haside hwaits hgeneration

theorem effect_answerLoad (d : Desk) (load : Nat) (result : HistoryResult) :
    Effect d (.quiet (d.answerLoad load result, [])) := by
  simp only [Trace.quiet, answerLoad]
  split
  · next generation selection hload =>
    split
    · have h := Effect.answer load _ result d.histories.length hload (by simp)
      simpa using h
    · exact .unheard load
  · exact .unheard load

theorem effect_answerPoll (d : Desk) (poll : Nat) (result : PollResult) :
    Effect d (.quiet (d.answerPoll poll result, [])) := by
  obtain ⟨polls, indicators, h⟩ :
      ∃ polls indicators, d.answerPoll poll result = { d with polls, indicators } := by
    simp only [answerPoll]
    split
    · split <;> exact ⟨_, _, rfl⟩
    · exact ⟨_, _, rfl⟩
  rw [h]
  exact .beside d.engine.poll d.engine.polls polls indicators d.now d.nextPoll [] (by simp)

theorem effect_answerLate (d : Desk) (load : Nat) (result : HistoryResult) (place : Nat) :
    Effect d (.quiet (d.answerLate load result place, [])) := by
  simp only [answerLate]
  split
  · next task hload =>
    split
    · next h => exact .answer load task result place hload h.2
    · exact effect_nothing d
  · exact effect_nothing d

theorem effect_handleIndicators (d : Desk) : Effect d (.quiet d.handleIndicators) := by
  simp only [Trace.quiet, handleIndicators]
  split
  · exact effect_nothing d
  · next i rest _ =>
    have haside := (d.engine.onIndicators_calls i.symbol i.result).aside
    rw [afterHandler_aside _ _ haside]
    exact .beside d.engine.poll d.engine.polls _ rest d.now d.nextPoll _ haside

/-- The timer starts a poll, if it is due at all. -/
def handleTimer (d : Desk) : Desk × List Order :=
  if d.nextPoll ≤ d.now then
    { d with nextPoll := d.nextDue }.afterHandler (d.engine.onTimer d.pollUnderway)
  else (d, [])

theorem effect_handleTimer (d : Desk) : Effect d (.quiet d.handleTimer) := by
  unfold handleTimer
  split
  · obtain ⟨poll, count, hengine, haside⟩ := d.engine.startPoll_eq false d.pollUnderway
    have heq := afterHandler_aside { d with nextPoll := d.nextDue }
      { d.engine with poll, polls := count } haside
    rw [← hengine] at heq
    simp only [Trace.quiet, Engine.onTimer, heq]
    rw [hengine]
    exact .beside poll count _ d.indicators d.now d.nextDue _ haside
  · exact effect_nothing d

theorem effect_send (d : Desk) (subscription : Nat) (tick : Tick) :
    Effect d (d.moved (.usual (.send subscription tick))) := by
  simp only [moved, move, step, startedBy, sentBy, fedBy, handledBy]
  cases hq : d.feeds[subscription]? with
  | none => exact effect_nothing d
  | some q =>
    have hlt := (List.getElem?_eq_some_iff.mp hq).1
    cases ht : q.takes d.capacity
    · simpa [ht] using effect_nothing d
    · simpa [ht] using Effect.send subscription tick hlt

/-- What the engine does only while it runs. -/
theorem effect_whenRunning {started : List Selection} {fed : List (Generation × Tick)}
    {handled : List LoadedHistory} (act : Desk → Desk × List Order)
    (h : Effect d { Trace.quiet (act d) with started, fed, handled }) :
    Effect d { Trace.quiet (d.whenRunning act) with
      started := if d.isRunning then started else []
      fed := if d.isRunning then fed else []
      handled := if d.isRunning then handled else [] } := by
  cases hrun : d.isRunning
  · simpa [whenRunning, Trace.quiet, hrun] using effect_nothing d
  · simpa [whenRunning, hrun] using h

/-- What the engine does only while it runs, and is neither a start nor fed by anything. -/
theorem effect_quiet {act : Desk → Desk × List Order} (h : Effect d (.quiet (act d))) :
    Effect d (.quiet (d.whenRunning act)) := by
  have h := effect_whenRunning act h
  simp only [Trace.quiet, ite_self] at h
  exact h

/-- Every move has one of the effects. -/
theorem effect_moved (d : Desk) (m : Move) : Effect d (d.moved m) := by
  cases m with
  | late load result place => exact effect_answerLate d load result place
  | usual o =>
    cases o with
    -- What the engine does is told only while it runs, on both sides.
    | select selection =>
      have h := effect_whenRunning
        (fun d => d.afterHandler (d.engine.select selection d.pollUnderway))
        (effect_start (d.engine.select_eq selection d.pollUnderway))
      simp only [Trace.quiet, ite_self] at h
      exact h
    -- A retry starts what is selected, if anything is.
    | retry =>
      have h : Effect d { Trace.quiet (d.afterHandler (d.engine.retry d.pollUnderway)) with
          started := d.engine.selection.toList } := by
        cases hs : d.engine.selection with
        | none =>
          simp only [Engine.retry, hs]
          exact effect_nothing d
        | some selection => exact effect_start (Engine.retry_eq hs d.pollUnderway)
      have h := effect_whenRunning (fun d => d.afterHandler (d.engine.retry d.pollUnderway)) h
      simp only [Trace.quiet, ite_self] at h
      exact h
    | shutdown => exact effect_quiet (effect_afterShutdown d)
    | send subscription tick => exact effect_send d subscription tick
    | endFeed subscription => exact .endFeed subscription
    | answerLoad load result => exact effect_answerLoad d load result
    | answerPoll poll result => exact effect_answerPoll d poll result
    | takeHistory =>
      have h := effect_whenRunning handleHistory (effect_handleHistory d)
      simp only [Trace.quiet, ite_self] at h
      exact h
    | takeIndicators => exact effect_quiet (effect_handleIndicators d)
    | takeTick =>
      have h := effect_whenRunning handleTick (effect_handleTick d)
      simp only [Trace.quiet, ite_self] at h
      exact h
    | timer => exact effect_quiet (effect_handleTimer d)
    | wait nanos =>
      exact .beside d.engine.poll d.engine.polls d.polls d.indicators (d.now + nanos) d.nextPoll []
        (by simp)

/-- What nothing but a start changes: how many sessions there were, and for what the last one is. -/
structure Frame (d : Desk) (u : Trace) : Prop where
  started : u.started = []
  orders : AskNothing u.orders
  generation : u.desk.engine.timeline.generation = d.engine.timeline.generation
  selection : u.desk.engine.selection = d.engine.selection
  subscriptions : u.desk.engine.subscriptions = d.engine.subscriptions
  feeds : u.desk.feeds.length = d.feeds.length

/-- A move is a start, or changes nothing of what only a start changes. -/
theorem Effect.start_or_frame {u : Trace} (h : Effect d u) :
    (∃ selection poll count polls aside, (∀ o ∈ aside, o.Aside) ∧
        u = d.afterStart selection poll count polls aside) ∨
      Frame d u := by
  cases h with
  | start selection poll count polls aside haside =>
    exact .inl ⟨selection, poll, count, polls, aside, haside, rfl⟩
  | finish poll condition feeds polls orders fed hfeeds horders hfed =>
    exact .inr ⟨rfl, horders, rfl, rfl, rfl, hfeeds⟩
  | tick session q tick rest aggregator event polls aside haside hsession hqueue hticks happly =>
    exact .inr ⟨rfl, .of_aside haside, Timeline.afterEvent_generation, rfl, rfl,
      List.length_modify ..⟩
  | history a rest timeline polls aside haside hwaits hgeneration =>
    exact .inr ⟨rfl, .of_aside haside, hgeneration, rfl, rfl, rfl⟩
  | send subscription tick hlt => exact .inr ⟨rfl, ⟨rfl, rfl⟩, rfl, rfl, rfl, List.length_modify ..⟩
  | answer load task result place hload hstate => exact .inr ⟨rfl, ⟨rfl, rfl⟩, rfl, rfl, rfl, rfl⟩
  | unheard load => exact .inr ⟨rfl, ⟨rfl, rfl⟩, rfl, rfl, rfl, rfl⟩
  | endFeed subscription => exact .inr ⟨rfl, ⟨rfl, rfl⟩, rfl, rfl, rfl, List.length_modify ..⟩
  | beside poll count polls indicators now nextPoll aside haside =>
    exact .inr ⟨rfl, .of_aside haside, rfl, rfl, rfl, rfl⟩

end Desk

end TickChart
