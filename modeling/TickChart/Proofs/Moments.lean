import TickChart.Proofs.Shown
import TickChart.Proofs.Tasks

/-!
# Moments of a desk

What can happen at a desk, where nothing is taken for granted of how fast a poll finishes: it may
linger after it has sent its result.

* `Moment`, `Desk.stepAt`: what happens next, where a poll may linger.
* `PollLog`: a desk, and what has become of its polls. Beside the queue of the results it keeps the
  numbers of the polls that have sent them, of which the results say nothing.
* `Onward`, `symbols_pollsAfterAll`: what orders and answers leave of the polls as it is.
* `Desk.PollEffect`: all that a moment can do to the polls and their results.
  `Desk.pollEffect_polled` proves it of every moment.
-/

namespace TickChart

/-- What happens next at a desk. A task sends its result before it finishes, and the engine asks
only whether it has finished. -/
structure Moment where
  occurrence : Occurrence
  /-- The task of the last poll has not finished, even if it has sent its result. -/
  lingers : Bool

namespace Desk

/-- The desk after a moment, and the orders that the engine gave in it: where the engine asks for
the last poll, it finds it under way also if it lingers. -/
def stepAt (d : Desk) (m : Moment) : Desk × List Order :=
  match m.occurrence with
  | .select selection =>
    d.whenRunning fun d =>
      d.afterHandler (d.engine.select selection (d.pollUnderway || m.lingers))
  | .retry => d.whenRunning fun d => d.afterHandler (d.engine.retry (d.pollUnderway || m.lingers))
  | .timer =>
    d.whenRunning fun d =>
      if d.nextPoll ≤ d.now then
        { d with nextPoll := d.nextDue }.afterHandler
          (d.engine.onTimer (d.pollUnderway || m.lingers))
      else (d, [])
  | o => d.step o

/-- Where nothing lingers, a moment is a step. -/
theorem stepAt_prompt (d : Desk) (o : Occurrence) : d.stepAt ⟨o, false⟩ = d.step o := by
  cases o <;> simp only [stepAt, step, Bool.or_false]

/-- The result that a poll sends, with the number of the poll. -/
def resultsBy (d : Desk) : Occurrence → List (Nat × PolledIndicators)
  | .answerPoll poll result =>
    match d.polls[poll]? with
    | some ⟨symbol, .underway⟩ => if d.isRunning then [(poll, ⟨symbol, result⟩)] else []
    | _ => []
  | _ => []

/-- The symbol for which an occurrence forces a poll: that of a switch to another symbol, and the
selected one where that is wanted anew. -/
def forcedBy (d : Desk) : Occurrence → Option Symbol
  | .select selection =>
    if d.engine.symbol? = some selection.symbol then none else some selection.symbol
  | .retry => d.engine.symbol?
  | _ => none

/-- How many of the results that wait the engine handles: the oldest one, or none. -/
def takenBy (d : Desk) : Occurrence → Nat
  | .takeIndicators => if d.isRunning then (d.indicators.take 1).length else 0
  | _ => 0

end Desk

/-- What a moment does to a desk, and to the results of its polls. -/
structure PollStep where
  desk : Desk
  orders : List Order
  sent : List (Nat × PolledIndicators) := []
  taken : Nat := 0

/-- All that happens in a moment. -/
def Desk.polled (d : Desk) (m : Moment) : PollStep :=
  ⟨(d.stepAt m).1, (d.stepAt m).2, d.resultsBy m.occurrence, d.takenBy m.occurrence⟩

/-- A result that an engine has handled. -/
structure Delivery where
  /-- The number of its poll. -/
  poll : Nat
  indicators : PolledIndicators
  /-- The engine that handled it, and what that ordered then. -/
  engine : Engine
  orders : List Order

/-- A result with the number of its poll. -/
def Delivery.result (d : Delivery) : Nat × PolledIndicators := (d.poll, d.indicators)

/-- A desk, and what has become of its polls so far. -/
structure PollLog where
  desk : Desk
  /-- What the engine ordered. -/
  orders : List Order := []
  /-- The results that wait for the engine, each with the number of its poll. -/
  waiting : List (Nat × PolledIndicators) := []
  /-- The results that the engine handled, the oldest first. -/
  delivered : List Delivery := []
  /-- The overlays that were shown, each with the number of the poll whose result it shows, if it
  was shown for one. -/
  shown : List (Option Nat × Overlay) := []

/-- The poll that an order starts, by its number and its symbol. -/
def Order.poll? : Order → Option (Nat × Symbol)
  | .poll number symbol => some (number, symbol)
  | _ => none

/-- The polls that are started among orders, in order. -/
def pollsOf (orders : List Order) : List (Nat × Symbol) := orders.filterMap Order.poll?

/-- Numbers from 0, in order. -/
def numbered (symbols : List Symbol) : List (Nat × Symbol) := symbols.mapIdx Prod.mk

namespace PollLog

/-- Nothing has happened at a new desk. -/
def initial (settings : Settings) : PollLog := { desk := .initial settings }

/-- The poll whose result is delivered next, if one is. -/
def source? (log : PollLog) (s : PollStep) : Option Nat :=
  (log.waiting.take s.taken).head?.map Prod.fst

/-- What has happened, with what happens next. What waits for an engine is lost when it ends. -/
def append (log : PollLog) (s : PollStep) : PollLog where
  desk := s.desk
  orders := log.orders ++ s.orders
  waiting := if s.desk.isRunning then log.waiting.drop s.taken ++ s.sent else []
  delivered := log.delivered ++
    (log.waiting.take s.taken).map fun p => ⟨p.1, p.2, log.desk.engine, s.orders⟩
  shown := log.shown ++ (overlaysOf s.orders).map (log.source? s, ·)

/-- What has happened after moments, from the first to the last. -/
def after (log : PollLog) (moments : List Moment) : PollLog :=
  moments.foldl (fun log m => log.append (log.desk.polled m)) log

/-- Where nothing lingers, the desk runs as it does without a log. -/
theorem after_prompt (log : PollLog) (os : List Occurrence) :
    (log.after (os.map (⟨·, false⟩))).desk = (log.desk.run os).1 ∧
      (log.after (os.map (⟨·, false⟩))).orders = log.orders ++ (log.desk.run os).2 := by
  induction os generalizing log with
  | nil => exact ⟨rfl, (List.append_nil _).symm⟩
  | cons o os ih =>
    have hdesk : (log.append (log.desk.polled ⟨o, false⟩)).desk = (log.desk.step o).1 := by
      rw [append, Desk.polled, Desk.stepAt_prompt]
    have horders : (log.append (log.desk.polled ⟨o, false⟩)).orders =
        log.orders ++ (log.desk.step o).2 := by
      rw [append, Desk.polled, Desk.stepAt_prompt]
    have hrest := ih (log.append (log.desk.polled ⟨o, false⟩))
    rw [hdesk, horders, List.append_assoc] at hrest
    exact hrest

/-- The results that were sent and not lost: those that the engine handled, and behind them those
that wait. -/
def results (log : PollLog) : List (Nat × PolledIndicators) :=
  log.delivered.map Delivery.result ++ log.waiting

/-- The numbers of the polls whose results were shown in overlays, in order. -/
def drawn (log : PollLog) : List Nat := log.shown.filterMap Prod.fst

end PollLog

/-! ## Polls, as orders and answers change them -/

/-- Polls go on: what was answered stays so. -/
def Onward (polls polls' : List PollTask) : Prop :=
  ∀ (i : Nat) (symbol : Symbol),
    polls[i]? = some ⟨symbol, .answered⟩ → polls'[i]? = some ⟨symbol, .answered⟩

namespace Onward

variable {polls polls' polls'' : List PollTask}

theorem refl (polls : List PollTask) : Onward polls polls := fun _ _ h => h

theorem trans (h : Onward polls polls') (h' : Onward polls' polls'') : Onward polls polls'' :=
  fun i symbol hi => h' i symbol (h i symbol hi)

theorem modify {f : PollTask → PollTask}
    (hf : ∀ symbol, f ⟨symbol, .answered⟩ = ⟨symbol, .answered⟩) (polls : List PollTask)
    (poll : Nat) : Onward polls (polls.modify poll f) := by
  intro i symbol hi
  rw [List.getElem?_modify, hi]
  by_cases h : poll = i
  · simp [h, hf]
  · simp [h]

end Onward

namespace Desk

theorem onward_pollsAfter (polls : List PollTask) (o : Order) :
    Onward polls (pollsAfter polls o) := by
  cases o with
  | poll poll symbol =>
    intro i symbol hi
    exact (List.getElem?_append_left (List.getElem?_eq_some_iff.mp hi).1).trans hi
  | abortPoll poll => exact .modify (fun _ => rfl) polls poll
  | _ => exact .refl polls

theorem onward_pollsAfterAll (polls : List PollTask) (orders : List Order) :
    Onward polls (pollsAfterAll polls orders) := by
  induction orders generalizing polls with
  | nil => exact .refl polls
  | cons o orders ih => exact (onward_pollsAfter polls o).trans (ih _)

theorem symbols_modify {f : PollTask → PollTask} (hf : ∀ t, (f t).symbol = t.symbol)
    (polls : List PollTask) (poll : Nat) :
    (polls.modify poll f).map PollTask.symbol = polls.map PollTask.symbol := by
  refine List.ext_getElem? fun i => ?_
  rw [List.getElem?_map, List.getElem?_map, List.getElem?_modify]
  by_cases h : poll = i <;> cases polls[i]? <;> simp [h, hf]

/-- A poll keeps its symbol, and those that are started come behind the others. -/
theorem symbols_pollsAfterAll (polls : List PollTask) (orders : List Order) :
    (pollsAfterAll polls orders).map PollTask.symbol =
      polls.map PollTask.symbol ++ (pollsOf orders).map Prod.snd := by
  induction orders generalizing polls with
  | nil => simp [pollsAfterAll, pollsOf]
  | cons o orders ih =>
    refine (ih _).trans ?_
    cases o with
    | poll poll symbol => simp [pollsAfter, pollsOf, Order.poll?]
    | abortPoll poll =>
      rw [pollsAfter, symbols_modify (f := .abort) fun _ => rfl]
      rfl
    | _ => rfl

theorem polls_performAll (d : Desk) (orders : List Order) :
    (d.performAll orders).polls = pollsAfterAll d.polls orders := by
  induction orders generalizing d with
  | nil => rfl
  | cons o orders ih =>
    have hone : (d.perform o).polls = pollsAfter d.polls o := by cases o <;> rfl
    refine (ih (d.perform o)).trans ?_
    rw [hone]
    rfl

/-- Orders change neither the results that wait nor whether the engine runs. -/
theorem waits_performAll (d : Desk) (orders : List Order) :
    (d.performAll orders).indicators = d.indicators ∧
      (d.performAll orders).condition = d.condition := by
  induction orders generalizing d with
  | nil => exact ⟨rfl, rfl⟩
  | cons o orders ih =>
    have hone : (d.perform o).indicators = d.indicators ∧
        (d.perform o).condition = d.condition := by
      cases o <;> exact ⟨rfl, rfl⟩
    exact ⟨(ih _).1.trans hone.1, (ih _).2.trans hone.2⟩

end Desk

/-- No other orders start polls. -/
theorem pollsOf_pollOrders (orders : List Order) :
    pollsOf (pollOrders orders) = pollsOf orders := by
  induction orders with
  | nil => rfl
  | cons o orders ih =>
    cases o with
    | poll poll symbol => exact congrArg ((poll, symbol) :: ·) ih
    | _ => exact ih

theorem pollsOf_of_pollOrders {orders : List Order} (h : pollOrders orders = []) :
    pollsOf orders = [] := by
  rw [← pollsOf_pollOrders, h]
  rfl

theorem pollsOf_append (a b : List Order) : pollsOf (a ++ b) = pollsOf a ++ pollsOf b := by
  simp [pollsOf]

theorem Engine.pollOrders_closing (e : Engine) : pollOrders e.closing = [] := by
  unfold Engine.closing
  cases e.session <;> rfl

theorem Engine.pollsOf_leavePoll (e : Engine) (underway : Bool) :
    pollsOf (e.leavePoll underway) = [] := by
  unfold Engine.leavePoll
  cases e.poll with
  | none => rfl
  | some poll => cases underway <;> rfl

/-- Behind a start, a poll is started, whatever becomes of the last one. -/
theorem Engine.pollsOf_start (e : Engine) (selection : Selection) (underway : Bool)
    {c : List Order} (hc : OnlyCalls c) :
    pollsOf ((e.start selection).2 ++
        (c ++ ((e.start selection).1.startPoll true underway).2)) =
      [(e.polls, selection.symbol)] := by
  have hpoll : pollsOf ((e.start selection).1.startPoll true underway).2 =
      [(e.polls, selection.symbol)] := by
    simp only [Engine.startPoll, Engine.start]
    cases e.poll <;> cases underway <;> rfl
  rw [pollsOf_append, pollsOf_append, pollsOf_of_pollOrders (e.pollOrders_start selection),
    pollsOf_of_pollOrders (pollOrders_calls hc), hpoll]
  rfl

/-- A switch to another symbol starts a poll. -/
theorem Engine.pollsOf_select {e : Engine} {selection : Selection}
    (h : e.symbol? ≠ some selection.symbol) (underway : Bool) :
    pollsOf (e.select selection underway).2 = [(e.polls, selection.symbol)] := by
  have hcall : OnlyCalls [.call (.overlay (.empty selection.symbol))] := by
    simp [OnlyCalls, Order.call?]
  simp only [Engine.select, if_neg h]
  exact e.pollsOf_start selection underway hcall

/-- The wish to see a selection anew starts a poll. -/
theorem Engine.pollsOf_retry {e : Engine} {selection : Selection} (h : e.selection = some selection)
    (underway : Bool) : pollsOf (e.retry underway).2 = [(e.polls, selection.symbol)] := by
  have hnone : OnlyCalls [] := by simp [OnlyCalls]
  simp only [Engine.retry, h]
  exact e.pollsOf_start selection underway hnone

/-- The timer starts a poll if it finds none under way. -/
theorem Engine.onTimer_of_not_underway {e : Engine} {symbol : Symbol}
    (h : e.symbol? = some symbol) : (e.onTimer false).2 = [.poll e.polls symbol] := by
  obtain ⟨selection, hselection, rfl⟩ := Option.map_eq_some_iff.mp h
  unfold Engine.onTimer Engine.startPoll
  cases e.poll <;> simp [hselection]

/-- The timer starts no poll beside one that it finds under way. -/
theorem Engine.onTimer_of_underway {e : Engine} {poll : Nat} (h : e.poll = some poll) :
    e.onTimer true = (e, []) := by
  unfold Engine.onTimer Engine.startPoll
  cases e.selection <;> simp [h]

/-- The overlay that a selection shows is empty. -/
theorem Engine.blank_select (e : Engine) (selection : Selection) (underway : Bool) :
    ∀ overlay ∈ e.overlaysBy (.select selection underway), overlay = .empty overlay.symbol := by
  intro overlay hmem
  simp only [overlaysBy] at hmem
  split at hmem
  · cases hmem
  · rw [List.mem_singleton.mp hmem]
    rfl

theorem numbered_concat (symbols : List Symbol) (symbol : Symbol) :
    numbered (symbols ++ [symbol]) = numbered symbols ++ [(symbols.length, symbol)] := by
  simp [numbered, List.mapIdx_append]

/-! ## What a moment can do -/

namespace Desk

/-- The engine and the polls are the same as before, and so are the results that wait, unless the
engine has ended. -/
structure SamePolls (d d' : Desk) : Prop where
  poll : d'.engine.poll = d.engine.poll
  count : d'.engine.polls = d.engine.polls
  polls : d'.polls = d.polls
  waits : d'.indicators = d.indicators ∧ d'.condition = d.condition ∨
    d'.indicators = [] ∧ ¬ d'.isRunning

/-- Of overlays, the orders show empty ones only. -/
def OnlyBlank (orders : List Order) : Prop :=
  ∀ overlay ∈ overlaysOf orders, overlay = .empty overlay.symbol

/-- All that a moment can do to the polls and to their results. -/
inductive PollEffect (d : Desk) : PollStep → Prop where
  /-- Nothing at all. -/
  | aside {d' : Desk} {orders : List Order} (h : d.SamePolls d')
      (horders : pollOrders orders = []) (hblank : OnlyBlank orders) :
      PollEffect d { desk := d', orders }
  /-- A poll is started behind the last one, which is given up if it is found under way. -/
  | start {d' : Desk} {orders : List Order} (found : Bool) (symbol : Symbol)
      (hfound : d.pollUnderway → found) (hpoll : d'.engine.poll = some d.engine.polls)
      (hcount : d'.engine.polls = d.engine.polls + 1)
      (hpolls : d'.polls = pollsAfterAll d.polls orders)
      (horders : pollOrders orders = d.engine.leavePoll found ++ [.poll d.engine.polls symbol])
      (hindicators : d'.indicators = d.indicators) (hcondition : d'.condition = d.condition)
      (hblank : OnlyBlank orders) :
      PollEffect d { desk := d', orders }
  /-- A poll that is under way sends its result. -/
  | send (poll : Nat) (symbol : Symbol) (result : PollResult) (hrun : d.isRunning)
      (hpoll : d.polls[poll]? = some ⟨symbol, .underway⟩) :
      PollEffect d
        { desk := { d with
            polls := d.polls.modify poll .answer
            indicators := d.indicators ++ [⟨symbol, result⟩] }
          orders := []
          sent := [(poll, ⟨symbol, result⟩)] }
  /-- A poll comes to its end, and nobody hears of it. -/
  | unheard (poll : Nat) :
      PollEffect d { desk := { d with polls := d.polls.modify poll .answer }, orders := [] }
  /-- The engine handles the result that has waited longest. -/
  | take (i : PolledIndicators) (rest : List PolledIndicators) (hrun : d.isRunning)
      (hwaits : d.indicators = i :: rest) :
      PollEffect d
        { desk := { d with indicators := rest }
          orders := d.engine.onIndicators i.symbol i.result
          taken := 1 }
  /-- The engine stops. -/
  | stop : PollEffect d { desk := d.afterShutdown.1, orders := d.afterShutdown.2 }

variable {d : Desk}

theorem onlyBlank_of_nil {orders : List Order} (h : overlaysOf orders = []) :
    OnlyBlank orders := by
  intro overlay hmem
  rw [h] at hmem
  cases hmem

/-- Something happens beside the engine and the polls. -/
theorem pollEffect_beside {d' : Desk} (hengine : d'.engine = d.engine) (hpolls : d'.polls = d.polls)
    (hindicators : d'.indicators = d.indicators) (hcondition : d'.condition = d.condition) :
    d.PollEffect { desk := d', orders := [] } :=
  .aside ⟨by rw [hengine], by rw [hengine], hpolls, .inl ⟨hindicators, hcondition⟩⟩ rfl
    (onlyBlank_of_nil rfl)

theorem pollEffect_nothing (d : Desk) : d.PollEffect { desk := d, orders := [] } :=
  pollEffect_beside rfl rfl rfl rfl

/-- The engine handles an input. `d'` is the desk from which the input was taken. -/
theorem pollEffect_handle {d' : Desk} (input : Engine.Input) {next : Engine} {orders : List Order}
    (hpolls : d'.polls = d.polls) (hindicators : d'.indicators = d.indicators)
    (hcondition : d'.condition = d.condition)
    (hfound : ∀ found, input.underway? = some found → d.pollUnderway → found)
    (hoverlays : ∀ overlay ∈ d.engine.overlaysBy input, overlay = .empty overlay.symbol)
    (hstep : d.engine.handle input = (.ok next, orders)) :
    d.PollEffect { desk := (d'.afterHandler (next, orders)).1, orders } := by
  have hblank : OnlyBlank orders := by
    have htells := (d.engine.handle_tells input).1
    rw [hstep] at htells
    rw [OnlyBlank, htells]
    exact hoverlays
  have hengine := engine_afterHandler d' (next, orders)
  have hafter : (d'.afterHandler (next, orders)).1.polls = pollsAfterAll d.polls orders := by
    rw [← hpolls]
    exact polls_performAll _ orders
  obtain ⟨hind, hcond⟩ := waits_performAll { d' with engine := next } orders
  cases Engine.handle_polls hstep with
  | same hpoll hcount horders =>
    refine .aside ⟨?_, ?_, ?_, .inl ⟨hind.trans hindicators, hcond.trans hcondition⟩⟩ horders
      hblank
    · rw [hengine, hpoll]
    · rw [hengine, hcount]
    · rw [hafter, pollsAfterAll_of_pollOrders horders]
  | started found symbol hinput hpoll hcount horders =>
    refine .start found symbol (hfound found hinput) ?_ ?_ hafter horders (hind.trans hindicators)
      (hcond.trans hcondition) hblank
    · rw [hengine, hpoll]
    · rw [hengine, hcount]

/-- What the engine does only while it runs. -/
theorem pollEffect_whenRunning (act : Desk → Desk × List Order)
    (h : d.PollEffect { desk := (act d).1, orders := (act d).2 }) :
    d.PollEffect { desk := (d.whenRunning act).1, orders := (d.whenRunning act).2 } := by
  unfold whenRunning
  split
  · exact h
  · exact pollEffect_nothing d

theorem pollEffect_handleHistory (d : Desk) :
    d.PollEffect { desk := d.handleHistory.1, orders := d.handleHistory.2 } := by
  simp only [handleHistory]
  split
  · exact pollEffect_nothing d
  · next h rest hwaits =>
    exact pollEffect_handle (.history h.generation h.selection h.result) rfl rfl rfl
      (fun _ hnone => nomatch hnone) nofun rfl

theorem pollEffect_handleTick (d : Desk) :
    d.PollEffect { desk := d.handleTick.1, orders := d.handleTick.2 } := by
  simp only [handleTick]
  split
  · next session symbol tick rest closed ended hsession hqueue =>
    split
    · next engine orders hstep =>
      exact pollEffect_handle (.tick tick) rfl rfl rfl (fun _ hnone => nomatch hnone) nofun
        hstep
    · next fault orders hstep =>
      have hcalls := d.engine.onTick_calls tick
      have htells := (d.engine.onTick_tells tick).1
      rw [hstep] at hcalls htells
      rw [afterFault_eq _ fault hcalls.aside, pollsAfterAll_calls hcalls]
      refine .aside ⟨rfl, rfl, rfl, .inr ⟨rfl, Bool.false_ne_true⟩⟩ ?_ (onlyBlank_of_nil ?_)
      · rw [pollOrders_append, pollOrders_calls hcalls, Engine.pollOrders_closing]
        rfl
      · rw [overlaysOf_append, htells, d.engine.tellNothing_closing.overlays]
        rfl
  · exact pollEffect_nothing d

theorem pollEffect_takeIndicators (d : Desk) (lingers : Bool) :
    d.PollEffect (d.polled ⟨.takeIndicators, lingers⟩) := by
  simp only [polled, stepAt, step, whenRunning, resultsBy, takenBy]
  split
  · next hrun =>
    cases hwaits : d.indicators with
    | nil =>
      simp only [handleIndicators, hwaits]
      exact pollEffect_nothing d
    | cons i rest =>
      have haside := (d.engine.onIndicators_calls i.symbol i.result).aside
      have hcalls := d.engine.onIndicators_calls i.symbol i.result
      simp only [handleIndicators, hwaits]
      rw [afterHandler_aside _ _ haside, pollsAfterAll_calls hcalls]
      exact .take i rest hrun hwaits
  · exact pollEffect_nothing d

theorem pollEffect_answerPoll (d : Desk) (poll : Nat) (result : PollResult) (lingers : Bool) :
    d.PollEffect (d.polled ⟨.answerPoll poll result, lingers⟩) := by
  simp only [polled, stepAt, step, answerPoll, resultsBy, takenBy]
  cases hpoll : d.polls[poll]? with
  | none => exact .unheard poll
  | some t =>
    obtain ⟨symbol, state⟩ := t
    cases state with
    | underway =>
      cases hrun : d.isRunning with
      | false => exact .unheard poll
      | true => exact .send poll symbol result hrun hpoll
    | answered => exact .unheard poll
    | aborted => exact .unheard poll

theorem pollEffect_send (d : Desk) (subscription : Nat) (tick : Tick) (lingers : Bool) :
    d.PollEffect (d.polled ⟨.send subscription tick, lingers⟩) := by
  simp only [polled, stepAt, step, resultsBy, takenBy]
  split
  · split
    · exact pollEffect_beside rfl rfl rfl rfl
    · exact pollEffect_nothing d
  · exact pollEffect_nothing d

theorem pollEffect_answerLoad (d : Desk) (load : Nat) (result : HistoryResult) :
    d.PollEffect { desk := d.answerLoad load result, orders := [] } := by
  simp only [answerLoad]
  split
  · split <;> exact pollEffect_beside rfl rfl rfl rfl
  · exact pollEffect_beside rfl rfl rfl rfl

/-- Every moment has one of the effects. -/
theorem pollEffect_polled (d : Desk) (m : Moment) : d.PollEffect (d.polled m) := by
  obtain ⟨o, lingers⟩ := m
  -- What the engine finds of the last poll is never less than what is true.
  have hfound : ∀ found, some (d.pollUnderway || lingers) = some found → d.pollUnderway → found :=
    fun _ h hunderway => Option.some.inj h ▸ Bool.or_inl hunderway
  cases o with
  | select selection =>
    exact pollEffect_whenRunning
      (fun d => d.afterHandler (d.engine.select selection (d.pollUnderway || lingers)))
      (pollEffect_handle (.select selection _) rfl rfl rfl hfound
        (d.engine.blank_select selection _) rfl)
  | retry =>
    exact pollEffect_whenRunning
      (fun d => d.afterHandler (d.engine.retry (d.pollUnderway || lingers)))
      (pollEffect_handle (.retry _) rfl rfl rfl hfound nofun rfl)
  | timer =>
    refine pollEffect_whenRunning (fun d =>
      if d.nextPoll ≤ d.now then
        { d with nextPoll := d.nextDue }.afterHandler
          (d.engine.onTimer (d.pollUnderway || lingers))
      else (d, [])) ?_
    split
    · exact pollEffect_handle (.timer _) rfl rfl rfl hfound nofun rfl
    · exact pollEffect_nothing d
  | shutdown => exact pollEffect_whenRunning afterShutdown .stop
  | send subscription tick => exact pollEffect_send d subscription tick lingers
  | endFeed subscription => exact pollEffect_beside rfl rfl rfl rfl
  | answerLoad load result => exact pollEffect_answerLoad d load result
  | answerPoll poll result => exact pollEffect_answerPoll d poll result lingers
  | takeHistory => exact pollEffect_whenRunning handleHistory d.pollEffect_handleHistory
  | takeIndicators => exact pollEffect_takeIndicators d lingers
  | takeTick => exact pollEffect_whenRunning handleTick d.pollEffect_handleTick
  | wait nanos => exact pollEffect_beside rfl rfl rfl rfl

end Desk

end TickChart
