import TickChart.Chart.Desk
import TickChart.Proofs.Run

/-!
# What the handlers of an engine order

A start ends the present session and begins one that has a subscription and a load of its own. What
the handlers order beside that is about polls and about what is shown.

* `Order.Aside`: an order about neither a subscription nor a load. `OnlyCalls`: orders that only
  show something.
* `select_eq`, `retry_eq`, `teardown_eq`, `startPoll_eq`, `onHistory_eq`, `onTick_calls`,
  `onIndicators_calls`: the handlers, as far as sessions are concerned.
* `startedBy`, `handle_of_started`, `handle_of_not_started`: an input starts a selection, or leaves
  the session the same one.
* `loadsOf`, `subscriptionsOf`: the loads and the subscriptions that were ordered.
* `performAll_aside`, `performAll_closing`, `performAll_start`: what the orders do to the tasks.
* `afterHandler_start`, `afterHandler_aside`, `afterShutdown_eq`, `afterFault_eq`: the desk after
  what an engine does.
-/

namespace TickChart

/-- An order about neither a subscription nor a load. -/
def Order.Aside : Order → Prop
  | .call _ | .poll _ _ | .abortPoll _ => True
  | .subscribe _ _ | .close _ | .load _ _ _ | .abortLoad _ => False

/-- Orders that only show something. -/
def OnlyCalls (orders : List Order) : Prop := ∀ o ∈ orders, o.call?.isSome

theorem OnlyCalls.aside {orders : List Order} (h : OnlyCalls orders) : ∀ o ∈ orders, o.Aside := by
  intro o ho
  have hcall := h o ho
  cases o with
  | call c => trivial
  | _ => cases hcall

/-- What lasts as long as a session does: all of it but the aggregator. -/
def Session.identity (s : Session) : Generation × Selection × Nat × Nat :=
  (s.generation, s.selection, s.subscription, s.load)

namespace Engine

variable {e : Engine}

/-- A poll changes nothing but the polls. -/
theorem startPoll_eq (e : Engine) (force underway : Bool) :
    ∃ poll polls, (e.startPoll force underway).1 = { e with poll, polls } ∧
      ∀ o ∈ (e.startPoll force underway).2, o.Aside := by
  simp only [startPoll]
  split
  · exact ⟨_, _, rfl, by simp⟩
  · split
    · split
      · exact ⟨_, _, rfl, by simp⟩
      · refine ⟨_, _, rfl, fun o ho => ?_⟩
        cases underway <;> simp at ho
        · exact ho ▸ trivial
        · rcases ho with rfl | rfl <;> trivial
    · refine ⟨_, _, rfl, by simp [Order.Aside]⟩

/-- A selection is a start, and something about polls and the overlay. -/
theorem select_eq (e : Engine) (selection : Selection) (underway : Bool) :
    ∃ poll polls aside, e.select selection underway =
        ({ (e.start selection).1 with poll, polls }, (e.start selection).2 ++ aside) ∧
      ∀ o ∈ aside, o.Aside := by
  simp only [select]
  split
  · exact ⟨_, _, [], by rw [List.append_nil], by simp⟩
  · obtain ⟨poll, polls, hpoll, haside⟩ := startPoll_eq (e.start selection).1 true underway
    refine ⟨poll, polls, _, Prod.ext hpoll rfl, fun o ho => ?_⟩
    rcases List.mem_cons.mp ho with rfl | ho
    · trivial
    · exact haside o ho

/-- To want the present selection anew is a start, and something about polls. -/
theorem retry_eq {selection : Selection} (h : e.selection = some selection) (underway : Bool) :
    ∃ poll polls aside, e.retry underway =
        ({ (e.start selection).1 with poll, polls }, (e.start selection).2 ++ aside) ∧
      ∀ o ∈ aside, o.Aside := by
  simp only [retry, h]
  obtain ⟨poll, polls, hpoll, haside⟩ := startPoll_eq (e.start selection).1 true underway
  exact ⟨poll, polls, _, Prod.ext hpoll rfl, haside⟩

theorem replay_generation (t : Timeline) (live : List Candle) :
    (replay t live).1.generation = t.generation := by
  induction live generalizing t with
  | nil => rfl
  | cons c live ih =>
    simp only [replay]
    split
    · next hf => exact (ih _).trans (Timeline.follow_generation hf)
    · exact ih t

/-- The orders that give up the last poll, if that is under way. -/
def leavePoll (e : Engine) (underway : Bool) : List Order :=
  match e.poll with
  | some poll => if underway then [.abortPoll poll] else []
  | none => []

theorem leavePoll_aside (e : Engine) (underway : Bool) : ∀ o ∈ e.leavePoll underway, o.Aside := by
  simp only [leavePoll]
  split
  · split <;> simp [Order.Aside]
  · simp

/-- To stop is to end the session, and to give up the last poll. -/
theorem teardown_eq (e : Engine) (underway : Bool) :
    e.teardown underway =
      ({ e with session := none, poll := none }, e.closing ++ e.leavePoll underway) := rfl

/-- A history changes the series only, and not even its generation. -/
theorem onHistory_eq (e : Engine) (generation : Generation) (selection : Selection)
    (result : HistoryResult) :
    ∃ timeline, timeline.generation = e.timeline.generation ∧
      (e.onHistory generation selection result).1 = { e with timeline } ∧
      OnlyCalls (e.onHistory generation selection result).2 := by
  simp only [onHistory]
  split
  · exact ⟨_, rfl, rfl, by simp [OnlyCalls]⟩
  · split
    · split
      · next t change hr =>
        obtain ⟨-, rfl, -⟩ := Timeline.reset_ok hr
        refine ⟨_, ?_, rfl, by simp [OnlyCalls, Order.call?]⟩
        exact replay_generation _ _
      · exact ⟨_, rfl, rfl, by simp [OnlyCalls]⟩
    · exact ⟨_, rfl, rfl, by simp [OnlyCalls, Order.call?]⟩
    · exact ⟨_, rfl, rfl, by simp [OnlyCalls, Order.call?]⟩

theorem onTick_calls (e : Engine) (tick : Tick) : OnlyCalls (e.onTick tick).2 := by
  simp only [onTick, followTick]
  split
  · simp [OnlyCalls]
  · split
    · split
      · simp [OnlyCalls, Order.call?]
      · split <;> simp [OnlyCalls, Order.call?]
    · simp [OnlyCalls, Order.call?]

theorem onIndicators_calls (e : Engine) (symbol : Symbol) (result : PollResult) :
    OnlyCalls (e.onIndicators symbol result) := by
  simp only [onIndicators]
  split
  · split <;> simp [OnlyCalls, Order.call?]
  · simp [OnlyCalls]

/-- The selection that the handling of an input starts, if it starts one. -/
def startedBy (e : Engine) : Input → Option Selection
  | .select selection _ => some selection
  | .retry _ => e.selection
  | .history _ _ _ | .tick _ | .indicators _ _ | .timer _ => none

/-- What an input says of the last poll, if it may start one: whether it is under way. -/
def Input.underway? : Input → Option Bool
  | .select _ underway | .retry underway | .timer underway => some underway
  | .history _ _ _ | .tick _ | .indicators _ _ => none

/-- An engine with the same session, of the same selection. -/
structure Keeps (e next : Engine) : Prop where
  session : next.session.map Session.identity = e.session.map Session.identity
  selection : next.selection = e.selection
  generation : next.timeline.generation = e.timeline.generation
  subscriptions : next.subscriptions = e.subscriptions
  loads : next.loads = e.loads

theorem Keeps.refl (e : Engine) : e.Keeps e := ⟨rfl, rfl, rfl, rfl, rfl⟩

variable {next : Engine} {input : Input} {orders : List Order} {selection : Selection}

/-- What starts a selection is a start, and something about polls and the overlay. -/
theorem handle_of_started (h : e.handle input = (.ok next, orders))
    (hs : e.startedBy input = some selection) :
    ∃ poll polls aside, (next, orders) =
        ({ (e.start selection).1 with poll, polls }, (e.start selection).2 ++ aside) ∧
      ∀ o ∈ aside, o.Aside := by
  cases input with
  | select selection' underway =>
    obtain rfl := Option.some.inj hs
    cases h
    exact select_eq e selection' underway
  | retry underway =>
    cases h
    exact retry_eq hs underway
  | history generation selection' result => cases hs
  | tick tick => cases hs
  | indicators symbol result => cases hs
  | timer underway => cases hs

/-- What comes of a tick: nothing, or the aggregator of the session takes it up. -/
theorem onTick_ok {tick : Tick} (h : (e.onTick tick).1 = .ok next) :
    next = e ∨ ∃ session aggregator event, e.session = some session ∧
      next = { e with
        session := some { session with aggregator }
        timeline := e.timeline.afterEvent session.generation event } := by
  cases hs : e.session with
  | none =>
    simp only [onTick, hs] at h
    cases h
    exact .inl rfl
  | some session =>
    cases ha : session.aggregator.apply tick with
    | error fault =>
      simp only [onTick, hs, ha] at h
      cases h
    | ok answer =>
      rw [onTick_eq hs ha] at h
      cases h
      exact .inr ⟨session, answer.1, answer.2, rfl, rfl⟩

theorem onTick_keeps {tick : Tick} (h : (e.onTick tick).1 = .ok next) : e.Keeps next := by
  rcases onTick_ok h with rfl | ⟨session, aggregator, event, hs, rfl⟩
  · exact .refl next
  · refine ⟨?_, rfl, Timeline.afterEvent_generation, rfl, rfl⟩
    rw [hs]
    rfl

/-- What starts nothing keeps the session, and orders nothing about it. -/
theorem handle_of_not_started (h : e.handle input = (.ok next, orders))
    (hs : e.startedBy input = none) : e.Keeps next ∧ ∀ o ∈ orders, o.Aside := by
  have hnext : (e.handle input).1 = .ok next := by rw [h]
  have horders : (e.handle input).2 = orders := by rw [h]
  subst horders
  cases input with
  | select selection underway => cases hs
  | retry underway =>
    have hnone : e.selection = none := hs
    simp only [handle, retry, hnone] at hnext ⊢
    cases hnext
    exact ⟨.refl e, by simp [answer]⟩
  | history generation selection result =>
    obtain ⟨timeline, hgeneration, hhistory, hcalls⟩ := onHistory_eq e generation selection result
    rw [handle, answer, hhistory] at hnext
    cases hnext
    exact ⟨⟨rfl, rfl, hgeneration, rfl, rfl⟩, hcalls.aside⟩
  | tick tick => exact ⟨onTick_keeps hnext, (onTick_calls e tick).aside⟩
  | indicators symbol result =>
    cases hnext
    exact ⟨.refl e, (onIndicators_calls e symbol result).aside⟩
  | timer underway =>
    obtain ⟨poll, polls, hpoll, haside⟩ := startPoll_eq e false underway
    rw [handle, answer, onTimer, hpoll] at hnext
    cases hnext
    exact ⟨⟨rfl, rfl, rfl, rfl, rfl⟩, haside⟩

end Engine

/-- The load that an order asks for, by its tag and its selection. -/
def Order.load? : Order → Option (Generation × Selection)
  | .load _ generation selection => some (generation, selection)
  | _ => none

/-- The subscription that an order asks for, by its number and its symbol. -/
def Order.subscription? : Order → Option (Nat × Symbol)
  | .subscribe subscription symbol => some (subscription, symbol)
  | _ => none

/-- The loads among orders, in order. -/
def loadsOf (orders : List Order) : List (Generation × Selection) := orders.filterMap Order.load?

/-- The subscriptions among orders, in order. -/
def subscriptionsOf (orders : List Order) : List (Nat × Symbol) :=
  orders.filterMap Order.subscription?

theorem loadsOf_append (a b : List Order) : loadsOf (a ++ b) = loadsOf a ++ loadsOf b := by
  simp [loadsOf]

theorem subscriptionsOf_append (a b : List Order) :
    subscriptionsOf (a ++ b) = subscriptionsOf a ++ subscriptionsOf b := by
  simp [subscriptionsOf]

/-- Orders that ask for neither a load nor a subscription. -/
structure AskNothing (orders : List Order) : Prop where
  loads : loadsOf orders = []
  subscriptions : subscriptionsOf orders = []

theorem AskNothing.append {a b : List Order} (ha : AskNothing a) (hb : AskNothing b) :
    AskNothing (a ++ b) :=
  ⟨by rw [loadsOf_append, ha.loads, hb.loads]; rfl,
    by rw [subscriptionsOf_append, ha.subscriptions, hb.subscriptions]; rfl⟩

theorem AskNothing.of_aside {orders : List Order} (h : ∀ o ∈ orders, o.Aside) :
    AskNothing orders := by
  have hnone : ∀ o : Order, o.Aside → o.load? = none ∧ o.subscription? = none := by
    intro o ho
    cases o with
    | call c => exact ⟨rfl, rfl⟩
    | poll poll symbol => exact ⟨rfl, rfl⟩
    | abortPoll poll => exact ⟨rfl, rfl⟩
    | _ => exact ho.elim
  exact ⟨List.filterMap_eq_nil_iff.mpr fun o ho => (hnone o (h o ho)).1,
    List.filterMap_eq_nil_iff.mpr fun o ho => (hnone o (h o ho)).2⟩

namespace Engine

theorem askNothing_closing (e : Engine) : AskNothing e.closing := by
  simp only [closing]
  split <;> exact ⟨rfl, rfl⟩

/-- The requests of a start: a subscription, and a load for the new generation. -/
theorem requests_start (e : Engine) (selection : Selection) :
    loadsOf (e.start selection).2 = [(e.timeline.generation.next, selection)] ∧
      subscriptionsOf (e.start selection).2 = [(e.subscriptions, selection.symbol)] := by
  simp only [start, loadsOf_append, subscriptionsOf_append, (askNothing_closing e).loads,
    (askNothing_closing e).subscriptions]
  exact ⟨rfl, rfl⟩

/-- The loads after the end of the present session: its load is given up. -/
def abortIn (e : Engine) (loads : List LoadTask) : List LoadTask :=
  match e.session with
  | some s => loads.modify s.load .abort
  | none => loads

/-- The subscriptions after the end of the present session: its one is closed. -/
def closeIn (e : Engine) (feeds : List TickQueue) : List TickQueue :=
  match e.session with
  | some s => feeds.modify s.subscription .close
  | none => feeds

end Engine

namespace Desk

variable {d : Desk} {orders : List Order}

theorem performAll_append (d : Desk) (a b : List Order) :
    d.performAll (a ++ b) = (d.performAll a).performAll b := List.foldl_append

theorem engine_performAll (d : Desk) (orders : List Order) :
    (d.performAll orders).engine = d.engine := by
  induction orders generalizing d with
  | nil => rfl
  | cons o orders ih =>
    have hone : (d.perform o).engine = d.engine := by cases o <;> rfl
    exact (ih (d.perform o)).trans hone

/-- The polls after an order. -/
def pollsAfter (polls : List PollTask) : Order → List PollTask
  | .poll _ symbol => polls ++ [⟨symbol, .underway⟩]
  | .abortPoll poll => polls.modify poll .abort
  | .call _ | .subscribe _ _ | .close _ | .load _ _ _ | .abortLoad _ => polls

/-- The polls after orders, from the first to the last. -/
def pollsAfterAll (polls : List PollTask) (orders : List Order) : List PollTask :=
  orders.foldl pollsAfter polls

/-- Orders about neither a subscription nor a load change the polls only. -/
theorem performAll_aside (d : Desk) (h : ∀ o ∈ orders, o.Aside) :
    d.performAll orders = { d with polls := pollsAfterAll d.polls orders } := by
  induction orders generalizing d with
  | nil => rfl
  | cons o orders ih =>
    have hone : d.perform o = { d with polls := pollsAfter d.polls o } := by
      have ho := h o List.mem_cons_self
      cases o with
      | call c => rfl
      | poll poll symbol => rfl
      | abortPoll poll => rfl
      | _ => exact ho.elim
    have hrest := ih (d.perform o) fun o' ho' => h o' (List.mem_cons_of_mem _ ho')
    rw [hone] at hrest
    show (d.perform o).performAll orders = _
    rw [hone, hrest]
    rfl

theorem performAll_closing (d : Desk) (e : Engine) :
    d.performAll e.closing = { d with loads := e.abortIn d.loads, feeds := e.closeIn d.feeds } := by
  simp only [Engine.closing, Engine.abortIn, Engine.closeIn]
  cases e.session <;> rfl

/-- What a start orders: the old session ends, and a subscription and a load are there for the new
one. -/
theorem performAll_start (d : Desk) (e : Engine) (selection : Selection) :
    d.performAll (e.start selection).2 =
      { d with
        loads := e.abortIn d.loads ++ [⟨e.timeline.generation.next, selection, .underway⟩]
        feeds := e.closeIn d.feeds ++ [⟨selection.symbol, [], false, false⟩] } := by
  simp only [Engine.start, performAll_append, performAll_closing]
  rfl

theorem engine_afterHandler (d : Desk) (result : Engine × List Order) :
    (d.afterHandler result).1.engine = result.1 :=
  engine_performAll _ result.2

/-- The desk after a handler that starts a selection. -/
theorem afterHandler_start (d : Desk) (selection : Selection) (poll : Option Nat) (count : Nat)
    {aside : List Order} (haside : ∀ o ∈ aside, o.Aside) :
    d.afterHandler ({ (d.engine.start selection).1 with poll, polls := count },
        (d.engine.start selection).2 ++ aside) =
      ({ d with
          engine := { (d.engine.start selection).1 with poll, polls := count }
          loads := d.engine.abortIn d.loads ++
            [⟨d.engine.timeline.generation.next, selection, .underway⟩]
          feeds := d.engine.closeIn d.feeds ++ [⟨selection.symbol, [], false, false⟩]
          polls := pollsAfterAll d.polls aside },
        (d.engine.start selection).2 ++ aside) := by
  rw [afterHandler, performAll_append, performAll_start, performAll_aside _ haside]

/-- The desk after a handler that orders nothing about a session. -/
theorem afterHandler_aside (d : Desk) (engine : Engine) (haside : ∀ o ∈ orders, o.Aside) :
    d.afterHandler (engine, orders) =
      ({ d with engine, polls := pollsAfterAll d.polls orders }, orders) := by
  rw [afterHandler, performAll_aside _ haside]

theorem afterShutdown_eq (d : Desk) :
    d.afterShutdown =
      ({ d with
          engine := { d.engine with session := none, poll := none }
          condition := .stopped
          loads := d.engine.abortIn d.loads
          feeds := d.engine.closeIn d.feeds
          polls := pollsAfterAll d.polls (d.engine.leavePoll d.pollUnderway)
          histories := []
          indicators := [] },
        d.engine.closing ++ d.engine.leavePoll d.pollUnderway) := by
  simp only [afterShutdown, afterHandler, Engine.teardown_eq, performAll_append, performAll_closing,
    performAll_aside _ (d.engine.leavePoll_aside d.pollUnderway)]

theorem afterFault_eq (d : Desk) (fault : Fault) (haside : ∀ o ∈ orders, o.Aside) :
    d.afterFault fault orders =
      ({ d with
          engine := { d.engine with session := none }
          condition := .broken fault
          loads := d.engine.abortIn d.loads
          feeds := d.engine.closeIn d.feeds
          polls := pollsAfterAll d.polls orders
          histories := []
          indicators := [] },
        orders ++ d.engine.closing) := by
  simp only [afterFault, performAll_append, performAll_aside _ haside, performAll_closing]

end Desk

end TickChart
