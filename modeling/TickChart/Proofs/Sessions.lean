import TickChart.Proofs.Newest
import TickChart.Proofs.Turns

/-!
# One session at a time

An engine holds at most one subscription and one load: those of the present session. It lets go of
both before it orders another subscription, and of everything when it stops.

* `Held`, `Held.afterAll`: what was ordered and not given up again, after orders.
* `Held.Orderly`: orders that ask for a subscription only while nothing is held. `Held.Leads` says
  in one with it what is held in the end.
* `Engine.held`, `Engine.Present`: what an engine holds, and for what.
* `Desk.Turn.ledger`, `Desk.Turn.present`, `Desk.Turn.tidy`: what every turn does to what is held,
  and to the tasks.
* `SessionOver`: nothing of a session is left. `OneSession`: all that is held, open or under way is
  of the present session. `one_session_at_a_time` proves it of every trace.
-/

namespace TickChart

/-- What was ordered and not given up again: the subscriptions with their symbols, and the loads
with their tags. -/
structure Held where
  subscriptions : List (Nat × Symbol)
  loads : List (Nat × Generation × Selection)

namespace Held

/-- Nothing was ordered yet. -/
def nothing : Held := ⟨[], []⟩

/-- What is held after an order. -/
def after (h : Held) : Order → Held
  | .subscribe subscription symbol =>
    { h with subscriptions := h.subscriptions ++ [(subscription, symbol)] }
  | .close subscription =>
    { h with subscriptions := h.subscriptions.filter (·.1 ≠ subscription) }
  | .load load generation selection =>
    { h with loads := h.loads ++ [(load, generation, selection)] }
  | .abortLoad load => { h with loads := h.loads.filter (·.1 ≠ load) }
  | .call _ | .poll _ _ | .abortPoll _ => h

/-- What is held after orders, from the first to the last. -/
def afterAll (h : Held) (orders : List Order) : Held := orders.foldl after h

/-- Among the orders, a subscription is asked for only while nothing is held. -/
def Orderly (h : Held) : List Order → Prop
  | [] => True
  | o :: orders => (o.subscription?.isSome → h = nothing) ∧ (h.after o).Orderly orders

variable {h : Held} {a b orders : List Order}

theorem afterAll_append (h : Held) (a b : List Order) :
    h.afterAll (a ++ b) = (h.afterAll a).afterAll b := List.foldl_append

theorem Orderly.append (ha : h.Orderly a) (hb : (h.afterAll a).Orderly b) :
    h.Orderly (a ++ b) := by
  induction a generalizing h with
  | nil => exact hb
  | cons o a ih => exact ⟨ha.1, ih ha.2 hb⟩

theorem Orderly.of_append (ho : h.Orderly (a ++ b)) : (h.afterAll a).Orderly b := by
  induction a generalizing h with
  | nil => exact ho
  | cons o a ih => exact ih ho.2

/-- Orders ask for a subscription only while nothing is held, and `h'` is what is held at last. -/
structure Leads (h : Held) (orders : List Order) (h' : Held) : Prop where
  held : h.afterAll orders = h'
  orderly : h.Orderly orders

theorem Leads.append {h' h'' : Held} (ha : h.Leads a h') (hb : h'.Leads b h'') :
    h.Leads (a ++ b) h'' := by
  refine ⟨?_, ha.orderly.append ?_⟩
  · rw [afterAll_append, ha.held, hb.held]
  · rw [ha.held]
    exact hb.orderly

/-- Orders about neither a subscription nor a load let go of nothing, and take nothing. -/
theorem leads_aside (h : Held) (ho : ∀ o ∈ orders, o.Aside) : h.Leads orders h := by
  induction orders with
  | nil => exact ⟨rfl, trivial⟩
  | cons o orders ih =>
    have hrest := ih fun o' ho' => ho o' (List.mem_cons_of_mem _ ho')
    have hone : h.after o = h ∧ o.subscription? = none := by
      have haside := ho o List.mem_cons_self
      cases o with
      | call c => exact ⟨rfl, rfl⟩
      | poll poll symbol => exact ⟨rfl, rfl⟩
      | abortPoll poll => exact ⟨rfl, rfl⟩
      | _ => exact haside.elim
    refine ⟨?_, by simp [hone.2], by rw [hone.1]; exact hrest.orderly⟩
    show (h.after o).afterAll orders = h
    rw [hone.1]
    exact hrest.held

/-- One order takes a subscription more only if nothing is held. -/
theorem length_after_le {o : Order} (hone : h.subscriptions.length ≤ 1)
    (ho : o.subscription?.isSome → h = nothing) : (h.after o).subscriptions.length ≤ 1 := by
  cases o with
  | subscribe subscription symbol =>
    rw [ho rfl]
    exact Nat.le_refl 1
  | close subscription =>
    have hle := List.length_filter_le (fun p : Nat × Symbol => decide (p.1 ≠ subscription))
      h.subscriptions
    exact Nat.le_trans hle hone
  | call c => exact hone
  | load load generation selection => exact hone
  | abortLoad load => exact hone
  | poll poll symbol => exact hone
  | abortPoll poll => exact hone

/-- At no time is more than one subscription held. -/
theorem Orderly.length_le (ho : h.Orderly orders) (hone : h.subscriptions.length ≤ 1)
    (hp : a <+: orders) : (h.afterAll a).subscriptions.length ≤ 1 := by
  induction a generalizing h orders with
  | nil => exact hone
  | cons o a ih =>
    obtain ⟨rest, rfl⟩ := hp
    obtain ⟨hfirst, hrest⟩ := ho
    exact ih hrest (length_after_le hone hfirst) (List.prefix_append a rest)

end Held

namespace Engine

variable {e next : Engine}

/-- What an engine holds: the subscription and the load of its session. -/
def held (e : Engine) : Held :=
  ⟨(e.session.map Session.channel).toList, (e.session.map Session.loading).toList⟩

theorem held_of_none (h : e.session = none) : e.held = .nothing := by
  rw [held, h]
  rfl

/-- The session is for the present selection and of the present generation. -/
def Present (e : Engine) : Prop :=
  ∀ s, e.session = some s → e.selection = some s.selection ∧ s.generation = e.timeline.generation

theorem Keeps.map_session {β : Type} (h : e.Keeps next)
    (f : Generation × Selection × Nat × Nat → β) :
    next.session.map (fun s => f s.identity) = e.session.map (fun s => f s.identity) := by
  have hsession := congrArg (Option.map f) h.session
  rw [Option.map_map, Option.map_map] at hsession
  exact hsession

theorem Keeps.channel (h : e.Keeps next) :
    next.session.map Session.channel = e.session.map Session.channel :=
  h.map_session fun p => (p.2.2.1, p.2.1.symbol)

theorem Keeps.loading (h : e.Keeps next) :
    next.session.map Session.loading = e.session.map Session.loading :=
  h.map_session fun p => (p.2.2.2, p.1, p.2.1)

theorem Keeps.held_eq (h : e.Keeps next) : next.held = e.held := by
  rw [held, held, h.channel, h.loading]

theorem Keeps.present (h : e.Keeps next) (hp : e.Present) : next.Present := by
  intro s' hs
  have hloading := h.loading
  rw [hs, Option.map_some, eq_comm, Option.map_eq_some_iff] at hloading
  obtain ⟨s, hs', hloading⟩ := hloading
  obtain ⟨-, hgeneration, hselection⟩ : s.load = s'.load ∧ s.generation = s'.generation ∧
      s.selection = s'.selection := by
    simpa [Session.loading] using hloading
  rw [h.selection, h.generation, ← hgeneration, ← hselection]
  exact hp s hs'

/-- The orders that end a session let go of all that it holds. -/
theorem held_closing (e : Engine) : e.held.Leads e.closing .nothing := by
  unfold closing held
  cases e.session with
  | none => exact ⟨rfl, trivial⟩
  | some s =>
    refine ⟨?_, nofun, nofun, trivial⟩
    simp [Held.afterAll, Held.after, Session.channel, Session.loading, Held.nothing]

/-- The orders of a start let go of the old session before they take anything for the new one. -/
theorem held_start (e : Engine) (selection : Selection) :
    e.held.Leads (e.start selection).2 (e.start selection).1.held := by
  simp only [start]
  refine e.held_closing.append ⟨rfl, ?_⟩
  simp [Held.Orderly, Held.after, Order.subscription?]

theorem present_start (e : Engine) (selection : Selection) : (e.start selection).1.Present := by
  intro s hs
  obtain rfl := Option.some.inj hs
  exact ⟨rfl, rfl⟩

/-- What the handling of an input orders lets go of what was held, and takes what is held after it.
-/
theorem held_handle {input : Input} {orders : List Order}
    (hstep : e.handle input = (.ok next, orders)) : e.held.Leads orders next.held := by
  cases hs : e.startedBy input with
  | none =>
    obtain ⟨hkeeps, haside⟩ := handle_of_not_started hstep hs
    rw [hkeeps.held_eq]
    exact e.held.leads_aside haside
  | some selection =>
    obtain ⟨poll, polls, aside, heq, haside⟩ := handle_of_started hstep hs
    obtain ⟨rfl, rfl⟩ := Prod.mk.inj heq
    exact (e.held_start selection).append ((e.start selection).1.held.leads_aside haside)

theorem present_handle {input : Input} {orders : List Order} (hp : e.Present)
    (hstep : e.handle input = (.ok next, orders)) : next.Present := by
  cases hs : e.startedBy input with
  | none => exact (handle_of_not_started hstep hs).1.present hp
  | some selection =>
    obtain ⟨poll, polls, aside, heq, -⟩ := handle_of_started hstep hs
    obtain ⟨rfl, -⟩ := Prod.mk.inj heq
    exact e.present_start selection

end Engine

namespace Desk

variable {d d' : Desk} {input? : Option Engine.Input} {result : Desk × List Order}

/-- A tick that breaks the engine orders nothing about a session. -/
theorem aside_of_fault {e : Engine} {tick : Tick} {fault : Fault} {orders : List Order}
    (h : e.onTick tick = (.error fault, orders)) : ∀ o ∈ orders, o.Aside := by
  have hcalls := e.onTick_calls tick
  rw [h] at hcalls
  exact hcalls.aside

/-- What a turn orders lets go of what was held, and takes what is held after it. -/
theorem Turn.ledger (h : d.Turn input? result) :
    d.engine.held.Leads result.2 result.1.engine.held := by
  cases h with
  | rest h =>
    rw [h.engine]
    exact ⟨rfl, trivial⟩
  | handle input h hrun hpoll hstep =>
    rw [engine_afterHandler, ← h.engine]
    exact Engine.held_handle hstep
  | @fault d' tick fault orders h hstep =>
    have haside := aside_of_fault hstep
    rw [afterFault_eq _ _ haside, ← h.engine]
    exact (d'.engine.held.leads_aside haside).append d'.engine.held_closing
  | shutdown =>
    have haside := d.engine.leavePoll_aside d.pollUnderway
    rw [afterShutdown_eq]
    exact d.engine.held_closing.append (Held.nothing.leads_aside haside)

theorem Turn.present (h : d.Turn input? result) (hp : d.engine.Present) :
    result.1.engine.Present := by
  cases h with
  | rest h =>
    rw [h.engine]
    exact hp
  | handle input h hrun hpoll hstep =>
    rw [engine_afterHandler]
    rw [← h.engine] at hp
    exact Engine.present_handle hp hstep
  | fault h hstep =>
    rw [afterFault_eq _ _ (aside_of_fault hstep)]
    exact fun s hs => nomatch hs
  | shutdown =>
    rw [afterShutdown_eq]
    exact fun s hs => nomatch hs

/-- No task is alive but those that the engine holds, and it holds those of its session, and the
last poll. Without running it has no session, and when it was stopped no poll. -/
structure Tidy (d : Desk) : Prop where
  feeds : Sole TickQueue.open? (d.engine.session.map Session.channel) d.engine.subscriptions d.feeds
  loads : Sole LoadTask.underway? (d.engine.session.map Session.loading) d.engine.loads d.loads
  polls : Sole PollTask.underway? (d.engine.poll.map (·, ())) d.engine.polls d.polls
  ended : ¬ d.isRunning → d.engine.session = none
  stopped : d.condition = .stopped → d.engine.poll = none

theorem Tidy.rests (h : d.Tidy) (hr : d.Rests d') : d'.Tidy where
  feeds := by
    rw [hr.engine]
    exact h.feeds.of_fewer hr.feeds
  loads := by
    rw [hr.engine]
    exact h.loads.of_fewer hr.loads
  polls := by
    rw [hr.engine]
    exact h.polls.of_fewer hr.polls
  ended := by
    rw [isRunning, hr.condition, hr.engine]
    exact h.ended
  stopped := by
    rw [hr.condition, hr.engine]
    exact h.stopped

theorem Tidy.handle {input : Engine.Input} {next : Engine} {orders : List Order} (h : d.Tidy)
    (hrun : d.isRunning)
    (hpoll : ∀ underway, input.underway? = some underway → underway = d.pollUnderway)
    (hstep : d.engine.handle input = (.ok next, orders)) :
    (d.afterHandler (next, orders)).1.Tidy := by
  have hpolls := h.polls.handle_polls (fun underway hinput i b hi => by
    rw [hpoll underway hinput]
    exact h.polls.pollUnderway hi) hstep
  have hrunning : d.condition = .running := of_decide_eq_true hrun
  have hnot : d.condition ≠ .stopped := by
    rw [hrunning]
    exact nofun
  cases hs : d.engine.startedBy input with
  | none =>
    obtain ⟨hkeeps, haside⟩ := Engine.handle_of_not_started hstep hs
    rw [afterHandler_aside _ _ haside]
    refine ⟨?_, ?_, hpolls, fun hend => absurd hrun hend, fun hstop => absurd hstop hnot⟩
    · rw [hkeeps.channel, hkeeps.subscriptions]
      exact h.feeds
    · rw [hkeeps.loading, hkeeps.loads]
      exact h.loads
  | some selection =>
    obtain ⟨poll, count, aside, heq, haside⟩ := Engine.handle_of_started hstep hs
    obtain ⟨rfl, rfl⟩ := Prod.mk.inj heq
    rw [pollsAfterAll_append, pollsAfterAll_start] at hpolls
    rw [afterHandler_start _ _ _ _ haside]
    refine ⟨?_, ?_, hpolls, fun hend => absurd hrun hend, fun hstop => absurd hstop hnot⟩
    · exact h.feeds.closeIn.concat rfl
    · exact h.loads.abortIn.concat rfl

theorem Tidy.afterFault (h : d.Tidy) (fault : Fault) {orders : List Order}
    (hcalls : OnlyCalls orders) : (d.afterFault fault orders).1.Tidy := by
  rw [afterFault_eq _ _ hcalls.aside, pollsAfterAll_calls hcalls]
  exact ⟨h.feeds.closeIn, h.loads.abortIn, h.polls, fun _ => rfl, nofun⟩

theorem Tidy.afterShutdown (h : d.Tidy) : d.afterShutdown.1.Tidy := by
  have hpolls := h.polls.leavePoll fun i b hi => h.polls.pollUnderway hi
  rw [afterShutdown_eq]
  exact ⟨h.feeds.closeIn, h.loads.abortIn, hpolls, fun _ => rfl, fun _ => rfl⟩

theorem Turn.tidy (h : d.Turn input? result) (ht : d.Tidy) : result.1.Tidy := by
  cases h with
  | rest h => exact ht.rests h
  | handle input h hrun hpoll hstep =>
    have hrun' : d.isRunning := hrun
    rw [isRunning, ← h.condition] at hrun'
    exact (ht.rests h).handle hrun' hpoll hstep
  | @fault d' tick fault orders h hstep =>
    have hcalls := d'.engine.onTick_calls tick
    rw [hstep] at hcalls
    exact (ht.rests h).afterFault fault hcalls
  | shutdown => exact ht.afterShutdown

end Desk

namespace Trace

variable {t : Trace}

/-- What was ordered is orderly, and what is held of it is what the engine holds and what is alive
beside it. -/
structure Accounted (t : Trace) : Prop where
  ledger : Held.nothing.Leads t.orders t.desk.engine.held
  present : t.desk.engine.Present
  tidy : t.desk.Tidy

theorem accounted_initial (settings : Settings) : Accounted (initial settings) where
  ledger := ⟨rfl, trivial⟩
  present := fun _ hs => nomatch hs
  tidy :=
    { feeds := ⟨rfl, fun _ _ hb => nomatch hb⟩
      loads := ⟨rfl, fun _ _ hb => nomatch hb⟩
      polls := ⟨rfl, fun _ _ hb => nomatch hb⟩
      ended := fun _ => rfl
      stopped := nofun }

theorem Accounted.move (h : Accounted t) (m : Move) : Accounted (t.append (t.desk.moved m)) where
  ledger := h.ledger.append (t.desk.turn_move m).ledger
  present := (t.desk.turn_move m).present h.present
  tidy := (t.desk.turn_move m).tidy h.tidy

/-- Nothing of a session is left: all that was ordered was closed or given up again. -/
structure SessionOver (t : Trace) : Prop where
  session : t.desk.engine.session = none
  held : Held.nothing.afterAll t.orders = .nothing
  subscriptions : ∀ c ∈ subscriptionsOf t.orders, ∃ q, t.desk.feeds[c.1]? = some q ∧ q.closed
  loads : ∀ l ∈ t.desk.loads, l.state ≠ .underway

/-- There is one session at a time: before the next one is asked for, all of the last one was given
back, and what is held, open or under way is of the present one. In the end there is none. -/
structure OneSession (t : Trace) : Prop where
  /-- A subscription is asked for only when all that were asked for before have been closed, and
  all loads before have been given up. -/
  alone : ∀ before n symbol rest, t.orders = before ++ .subscribe n symbol :: rest →
    Held.nothing.afterAll before = .nothing
  /-- At no point between the orders is more than one subscription held. -/
  single : ∀ before, before <+: t.orders →
    (Held.nothing.afterAll before).subscriptions.length ≤ 1
  /-- What is held after all orders is what the session holds. -/
  holds : Held.nothing.afterAll t.orders = t.desk.engine.held
  /-- The subscription that is open is that of the session, which is for the present selection and
  of the present generation. -/
  opened : ∀ n q, t.desk.feeds[n]? = some q → q.closed = false →
    ∃ s, t.desk.engine.session = some s ∧ s.subscription = n ∧ s.selection.symbol = q.symbol ∧
      t.desk.engine.selection = some s.selection ∧
      s.generation = t.desk.engine.timeline.generation
  /-- The load that is under way is that of the session. -/
  underway : ∀ n l, t.desk.loads[n]? = some l → l.state = .underway →
    ∃ s, t.desk.engine.session = some s ∧ s.load = n ∧ s.selection = l.selection ∧
      s.generation = l.generation
  /-- An engine that runs can be stopped. -/
  stops : t.desk.isRunning → (t.desk.step .shutdown).1.condition = .stopped
  /-- When the engine does not run any more, nothing of a session is left. -/
  ended : ¬ t.desk.isRunning → SessionOver t
  /-- When it was stopped, no poll is left either. -/
  stopped : t.desk.condition = .stopped → ∀ p ∈ t.desk.polls, p.state ≠ .underway

theorem Accounted.opened (h : Accounted t) {n : Nat} {q : TickQueue}
    (hq : t.desk.feeds[n]? = some q) (hopen : q.closed = false) :
    ∃ s, t.desk.engine.session = some s ∧ s.subscription = n ∧ s.selection.symbol = q.symbol := by
  have halive : t.desk.feeds[n]?.bind TickQueue.open? = some q.symbol := by
    rw [hq, Option.bind_some, TickQueue.open?, hopen]
    rfl
  obtain ⟨s, hs, heq⟩ := Option.map_eq_some_iff.mp (h.tidy.feeds.only n q.symbol halive)
  obtain ⟨hn, hsymbol⟩ := Prod.mk.inj heq
  exact ⟨s, hs, hn, hsymbol⟩

theorem Accounted.underway (h : Accounted t) {n : Nat} {l : LoadTask}
    (hl : t.desk.loads[n]? = some l) (hstate : l.state = .underway) :
    ∃ s, t.desk.engine.session = some s ∧ s.load = n ∧ s.selection = l.selection ∧
      s.generation = l.generation := by
  have halive : t.desk.loads[n]?.bind LoadTask.underway? = some (l.generation, l.selection) := by
    rw [hl, Option.bind_some, LoadTask.underway?, if_pos hstate]
  obtain ⟨s, hs, heq⟩ := Option.map_eq_some_iff.mp (h.tidy.loads.only n _ halive)
  obtain ⟨hn, htag⟩ := Prod.mk.inj heq
  obtain ⟨hgeneration, hselection⟩ := Prod.mk.inj htag
  exact ⟨s, hs, hn, hselection, hgeneration⟩

/-- Every subscription that was ordered has a queue. -/
theorem CountsKept.exists_feed (h : CountsKept t) {c : Nat × Symbol}
    (hc : c ∈ subscriptionsOf t.orders) : ∃ q, t.desk.feeds[c.1]? = some q := by
  rw [h.ordered, channels, List.mem_mapIdx] at hc
  obtain ⟨i, hi, rfl⟩ := hc
  have hlt : i < t.desk.feeds.length := by rw [h.feeds]; exact hi
  exact ⟨_, List.getElem?_eq_getElem hlt⟩

theorem Accounted.ended (h : Accounted t) (hcounts : CountsKept t) (hend : ¬ t.desk.isRunning) :
    SessionOver t := by
  have hnone := h.tidy.ended hend
  have hheld := h.ledger.held.trans (Engine.held_of_none hnone)
  refine ⟨hnone, hheld, fun c hc => ?_, fun l hl hstate => ?_⟩
  · obtain ⟨q, hq⟩ := hcounts.exists_feed hc
    refine ⟨q, hq, ?_⟩
    by_contra hopen
    obtain ⟨s, hs, -⟩ := h.opened hq (Bool.eq_false_iff.mpr hopen)
    rw [hnone] at hs
    cases hs
  · obtain ⟨n, hn⟩ := List.mem_iff_getElem?.mp hl
    obtain ⟨s, hs, -⟩ := h.underway hn hstate
    rw [hnone] at hs
    cases hs

theorem Accounted.stopped (h : Accounted t) (hstop : t.desk.condition = .stopped) {p : PollTask}
    (hp : p ∈ t.desk.polls) : p.state ≠ .underway := by
  intro hstate
  have hpolls := h.tidy.polls
  rw [h.tidy.stopped hstop] at hpolls
  have hdead := hpolls.eq_none_of_mem hp
  rw [PollTask.underway?, if_pos hstate] at hdead
  cases hdead

/-- **There is one session at a time.** Whatever the owner of an engine commands, and whatever comes
of the tasks beside it: a subscription is asked for only after all others were closed and their
loads given up, so that at most one is open; that one is for the present selection and generation;
and when the engine has ended, every subscription is closed, and no load is under way. After a stop
no poll is, either. -/
theorem one_session_at_a_time (settings : Settings) (moves : List Move) :
    OneSession ((initial settings).after moves) := by
  have h : Accounted ((initial settings).after moves) :=
    after_of_move (fun _ m h => h.move m) (accounted_initial settings) moves
  have hcounts := ((kept_initial settings).after moves).counts
  refine
    { alone := fun before n symbol rest heq => ?_
      single := fun before hp => h.ledger.orderly.length_le (Nat.zero_le 1) hp
      holds := h.ledger.held
      opened := fun n q hq hopen => ?_
      underway := fun n l hl hstate => h.underway hl hstate
      stops := fun hrun => ?_
      ended := h.ended hcounts
      stopped := fun hstop p hp => h.stopped hstop hp }
  · have horderly := h.ledger.orderly
    rw [heq] at horderly
    exact horderly.of_append.1 rfl
  · obtain ⟨s, hs, hn, hsymbol⟩ := h.opened hq hopen
    obtain ⟨hselection, hgeneration⟩ := h.present s hs
    exact ⟨s, hs, hn, hsymbol, hselection, hgeneration⟩
  · rw [Desk.step, Desk.whenRunning, if_pos hrun, Desk.afterShutdown_eq]

/-- A selection, the wish to see it anew, and the end: both subscriptions are closed, both loads are
given up, and of the polls the second was given up last. -/
example :
    let t := (initial .standard).after
      [.usual (.select Aggregator.byMinute), .usual .retry, .usual .shutdown]
    t.desk.condition = .stopped ∧ t.desk.feeds.map TickQueue.closed = [true, true] ∧
      t.desk.loads.map LoadTask.state = [.aborted, .aborted] ∧
      t.desk.polls.map PollTask.state = [.aborted, .aborted] := by
  decide

end Trace

end TickChart
