import Mathlib.Data.List.Nodup
import TickChart.Proofs.Aggregator
import TickChart.Proofs.Moves

/-!
# The newest selection wins

Each start of a selection orders one load and one subscription. Whatever comes of earlier ones, and
however late, does nothing: a history is told by the generation that its load is tagged with, a tick
by the subscription that it was sent on.

* `Trace.generations`, `Trace.channels`: the tags and the subscriptions of the started selections.
* `Trace.answered`, `Trace.sentOn`, `Trace.fedIn`: the histories that came of loads, and the ticks
  on their way.
* `LoadsKept`, `CountsKept`, `TicksKept`: what each move keeps.
* `NewestWins`: all that the engine gets is of the newest start, or does nothing.
  `newest_selection_wins` proves it of every trace.
-/

namespace TickChart

/-- The generation and the selection that a load was ordered for. -/
def LoadTask.tag (l : LoadTask) : Generation × Selection := (l.generation, l.selection)

@[simp] theorem LoadTask.tag_abort (l : LoadTask) : l.abort.tag = l.tag := rfl

@[simp] theorem LoadTask.tag_answer (l : LoadTask) : l.answer.tag = l.tag := rfl

theorem LoadTask.abort_of_answered {l : LoadTask} (h : l.state = .answered) : l.abort = l := by
  cases l
  cases h
  rfl

/-- The generation and the selection that a history was loaded for. -/
def LoadedHistory.tag (h : LoadedHistory) : Generation × Selection := (h.generation, h.selection)

namespace Trace

/-- The started selections, each with the generation that it began: they are counted from 1. -/
def generations (started : List Selection) : List (Generation × Selection) :=
  started.mapIdx fun i s => (⟨i + 1⟩, s)

/-- The symbols of the started selections, each with the number of its subscription. -/
def channels (started : List Selection) : List (Nat × Symbol) :=
  started.mapIdx fun i s => (i, s.symbol)

/-- The ticks that were sent on a subscription. -/
def sentOn (t : Trace) (subscription : Nat) : List Tick :=
  (t.sent.filter (·.1 = subscription)).map Prod.snd

/-- The ticks that were fed to the aggregator of a generation. -/
def fedIn (t : Trace) (generation : Generation) : List Tick :=
  (t.fed.filter (·.1 = generation)).map Prod.snd

/-- The histories that were handled, and those that wait. -/
def answered (t : Trace) : List LoadedHistory := t.handled ++ t.desk.histories

variable {t t' u : Trace} {s : Session}

theorem generations_concat (started : List Selection) (selection : Selection) :
    generations (started ++ [selection]) =
      generations started ++ [(⟨started.length + 1⟩, selection)] := by
  simp [generations, List.mapIdx_append]

theorem channels_concat (started : List Selection) (selection : Selection) :
    channels (started ++ [selection]) =
      channels started ++ [(started.length, selection.symbol)] := by
  simp [channels, List.mapIdx_append]

theorem mem_generations {started : List Selection} {g : Generation} {selection : Selection}
    (h : (g, selection) ∈ generations started) :
    0 < g.number ∧ started[g.number - 1]? = some selection := by
  obtain ⟨i, hi, heq⟩ := List.mem_mapIdx.mp h
  obtain ⟨rfl, rfl⟩ := Prod.mk.inj heq
  exact ⟨Nat.succ_pos i, List.getElem?_eq_getElem hi⟩

/-- No generation begins twice. -/
theorem nodup_generations (started : List Selection) :
    ((generations started).map Prod.fst).Nodup := by
  rw [List.Nodup, List.pairwise_map, List.pairwise_iff_getElem]
  intro i j _ _ hlt heq
  simp only [generations, List.getElem_mapIdx, Generation.mk.injEq] at heq
  omega

/-! ## Loads -/

/-- What holds of the loads, and of the histories that came of them. -/
structure LoadsKept (t : Trace) : Prop where
  /-- There is one load for each started selection. -/
  loads : t.desk.loads.map LoadTask.tag = generations t.started
  ordered : loadsOf t.orders = generations t.started
  /-- A history came of the load of its generation and selection. -/
  spawned : ∀ h ∈ t.answered, ∃ l ∈ t.desk.loads, l.state = .answered ∧ l.tag = h.tag
  once : (t.answered.map LoadedHistory.generation).Nodup

/-- Loads that are changed in one place, by something that changes neither the tag of a load nor one
that was answered. -/
theorem modify_loads {f : LoadTask → LoadTask} (htag : ∀ l, (f l).tag = l.tag)
    (hf : ∀ l, l.state = .answered → f l = l) (loads : List LoadTask) (i : Nat) :
    (loads.modify i f).map LoadTask.tag = loads.map LoadTask.tag ∧
      ∀ l ∈ loads, l.state = .answered → l ∈ loads.modify i f := by
  constructor
  · refine List.ext_getElem? fun j => ?_
    simp only [List.getElem?_map, List.getElem?_modify, Option.map_eq_map, Option.map_map]
    congr 1
    funext l
    by_cases hij : i = j <;> simp [hij, htag]
  · intro l hl hstate
    obtain ⟨j, hj⟩ := List.mem_iff_getElem?.mp hl
    refine List.mem_iff_getElem?.mpr ⟨j, ?_⟩
    rw [List.getElem?_modify, hj]
    by_cases hij : i = j <;> simp [hij, hf l hstate]

theorem abortIn_loads (e : Engine) (loads : List LoadTask) :
    (e.abortIn loads).map LoadTask.tag = loads.map LoadTask.tag ∧
      ∀ l ∈ loads, l.state = .answered → l ∈ e.abortIn loads := by
  simp only [Engine.abortIn]
  split
  · exact modify_loads LoadTask.tag_abort (fun _ => LoadTask.abort_of_answered) loads _
  · exact ⟨rfl, fun l hl _ => hl⟩

theorem answer_loads (loads : List LoadTask) (i : Nat) :
    (loads.modify i .answer).map LoadTask.tag = loads.map LoadTask.tag ∧
      ∀ l ∈ loads, l.state = .answered → l ∈ loads.modify i .answer := by
  refine modify_loads LoadTask.tag_answer (fun l hl => ?_) loads i
  rw [LoadTask.answer, ← hl]

/-- The same histories, or fewer, and the same loads, of which none that was answered is changed. -/
theorem LoadsKept.of_sublist (h : LoadsKept t)
    (hloads : t'.desk.loads.map LoadTask.tag = t.desk.loads.map LoadTask.tag ∧
      ∀ l ∈ t.desk.loads, l.state = .answered → l ∈ t'.desk.loads)
    (hstarted : t'.started = t.started) (horders : loadsOf t'.orders = loadsOf t.orders)
    (hanswered : t'.answered.Sublist t.answered) : LoadsKept t' where
  loads := by rw [hloads.1, h.loads, hstarted]
  ordered := by rw [horders, h.ordered, hstarted]
  spawned := fun a ha => by
    obtain ⟨l, hl, hstate, htag⟩ := h.spawned a (hanswered.subset ha)
    exact ⟨l, hloads.2 l hl hstate, hstate, htag⟩
  once := h.once.sublist (hanswered.map _)

/-- There are no two loads of one generation. -/
theorem LoadsKept.eq_of_generation (h : LoadsKept t) {a b : LoadTask} (ha : a ∈ t.desk.loads)
    (hb : b ∈ t.desk.loads) (heq : a.generation = b.generation) : a = b := by
  have hnodup : (t.desk.loads.map LoadTask.generation).Nodup := by
    have htags := nodup_generations t.started
    rwa [← h.loads, List.map_map] at htags
  exact List.inj_on_of_nodup_map hnodup ha hb heq

/-- One more history came of a load, the first one of its generation. -/
theorem LoadsKept.answer {i : Nat} {task : LoadTask} (h : LoadsKept t)
    (result : HistoryResult) (hload : t.desk.loads[i]? = some task)
    (hstate : task.state ≠ .answered)
    (hloads : t'.desk.loads = t.desk.loads.modify i .answer) (hstarted : t'.started = t.started)
    (horders : loadsOf t'.orders = loadsOf t.orders)
    (hanswered : t'.answered.Perm (⟨task.generation, task.selection, result⟩ :: t.answered)) :
    LoadsKept t' := by
  obtain ⟨htags, hstay⟩ := answer_loads t.desk.loads i
  refine ⟨by rw [hloads, htags, h.loads, hstarted], by rw [horders, h.ordered, hstarted],
    fun a ha => ?_, ?_⟩
  · rw [hloads]
    rcases List.mem_cons.mp (hanswered.subset ha) with rfl | ha
    · refine ⟨task.answer, List.mem_iff_getElem?.mpr ⟨i, ?_⟩, rfl, rfl⟩
      rw [List.getElem?_modify_eq, hload]
      rfl
    · obtain ⟨l, hl, hanswered, htag⟩ := h.spawned a ha
      exact ⟨l, hstay l hl hanswered, hanswered, htag⟩
  · rw [(hanswered.map _).nodup_iff, List.map_cons, List.nodup_cons]
    refine ⟨fun hmem => ?_, h.once⟩
    obtain ⟨a, ha, hgeneration⟩ := List.mem_map.mp hmem
    obtain ⟨l, hl, hanswered, htag⟩ := h.spawned a ha
    have heq : l = task := h.eq_of_generation hl (List.mem_of_getElem? hload)
      ((congrArg Prod.fst htag).trans hgeneration)
    exact hstate (heq ▸ hanswered)

/-- A start gives up the load of the session before, and orders one more. -/
theorem LoadsKept.start (h : LoadsKept t)
    (hgeneration : t.desk.engine.timeline.generation = ⟨t.started.length⟩) (selection : Selection)
    (poll : Option Nat) (count : Nat) (polls : List PollTask) {aside : List Order}
    (haside : ∀ o ∈ aside, o.Aside) :
    LoadsKept (t.append (t.desk.afterStart selection poll count polls aside)) := by
  obtain ⟨htags, hstay⟩ := abortIn_loads t.desk.engine t.desk.loads
  have hnext : t.desk.engine.timeline.generation.next = ⟨t.started.length + 1⟩ := by
    rw [hgeneration, Generation.next]
  refine ⟨?_, ?_, ?_, ?_⟩
  · simp only [append, Desk.afterStart, List.map_append, htags, h.loads, generations_concat, hnext]
    rfl
  · simp only [append, Desk.afterStart, loadsOf_append, h.ordered, (Engine.requests_start ..).1,
      (AskNothing.of_aside haside).loads, generations_concat, hnext, List.append_nil]
  · intro a ha
    simp only [answered, append, Desk.afterStart, List.append_nil] at ha
    obtain ⟨l, hl, hstate, htag⟩ := h.spawned a ha
    exact ⟨l, List.mem_append_left _ (hstay l hl hstate), hstate, htag⟩
  · simpa only [answered, append, Desk.afterStart, List.append_nil] using h.once

/-- What has happened to the loads is kept by all that can happen. -/
theorem LoadsKept.append (h : LoadsKept t)
    (hgeneration : t.desk.engine.timeline.generation = ⟨t.started.length⟩)
    (he : t.desk.Effect u) : LoadsKept (t.append u) := by
  have hsame : t.desk.loads.map LoadTask.tag = t.desk.loads.map LoadTask.tag ∧
      ∀ l ∈ t.desk.loads, l.state = .answered → l ∈ t.desk.loads := ⟨rfl, fun _ hl _ => hl⟩
  cases he with
  | start selection poll count polls aside haside =>
    exact h.start hgeneration selection poll count polls haside
  -- The histories that wait are lost, which leaves fewer of them.
  | finish poll condition feeds polls orders fed hfeeds horders hfed =>
    refine h.of_sublist (abortIn_loads t.desk.engine t.desk.loads) ?_ ?_ ?_
    · simp [append]
    · simp [append, loadsOf_append, horders.loads]
    · simp [append, answered]
  -- A history that is handled has been answered before, and stays so.
  | history a rest timeline polls aside haside hwaits hgeneration =>
    refine h.of_sublist hsame ?_ ?_ ?_
    · simp [append]
    · simp [append, loadsOf_append, (AskNothing.of_aside haside).loads]
    · simp [append, answered, hwaits]
  -- The one way in which a history comes of a load, at any place among those that wait.
  | answer load task result place hload hstate =>
    refine h.answer result hload hstate rfl ?_ ?_ ?_
    · simp [append]
    · simp [append]
    · have hmiddle : (t.handled ++ t.desk.histories.take place ++
          ⟨task.generation, task.selection, result⟩ :: t.desk.histories.drop place).Perm _ :=
        List.perm_middle
      simpa [append, answered] using hmiddle
  | unheard load =>
    refine h.of_sublist (answer_loads t.desk.loads load) ?_ ?_ ?_ <;> simp [append, answered]
  -- Neither the loads nor the histories are touched.
  | tick session q tick rest aggregator event polls aside haside hsession hqueue hticks happly =>
    refine h.of_sublist hsame ?_ ?_ ?_
    · simp [append]
    · simp [append, loadsOf_append, (AskNothing.of_aside haside).loads]
    · simp [append, answered]
  | send subscription tick hlt =>
    refine h.of_sublist hsame ?_ ?_ ?_ <;> simp [append, answered]
  | endFeed subscription =>
    refine h.of_sublist hsame ?_ ?_ ?_ <;> simp [append, answered]
  | beside poll count polls indicators now nextPoll aside haside =>
    refine h.of_sublist hsame ?_ ?_ ?_
    · simp [append]
    · simp [append, loadsOf_append, (AskNothing.of_aside haside).loads]
    · simp [append, answered]

/-! ## The engine and its ticks -/

/-- What holds of the present session. -/
structure SessionKept (t : Trace) (s : Session) : Prop where
  generation : s.generation = ⟨t.started.length⟩
  selection : t.started.getLast? = some s.selection
  subscription : s.subscription + 1 = t.started.length
  /-- What was sent on its subscription was fed to its aggregator, or still waits. -/
  ticks : ∃ q, t.desk.feeds[s.subscription]? = some q ∧
    t.fedIn s.generation ++ q.ticks = t.sentOn s.subscription
  aggregator : ∃ events, (Aggregator.empty s.selection.symbol s.selection.timeframe).run
    (t.fedIn s.generation) = .ok (s.aggregator, events)

/-- What holds of the counts that a start goes by. -/
structure CountsKept (t : Trace) : Prop where
  generation : t.desk.engine.timeline.generation = ⟨t.started.length⟩
  selection : t.desk.engine.selection = t.started.getLast?
  subscriptions : t.desk.engine.subscriptions = t.started.length
  /-- There is one subscription for each started selection. -/
  ordered : subscriptionsOf t.orders = channels t.started
  feeds : t.desk.feeds.length = t.started.length

theorem CountsKept.append (h : CountsKept t) (he : t.desk.Effect u) : CountsKept (t.append u) := by
  rcases he.start_or_frame with ⟨selection, poll, count, polls, aside, haside, rfl⟩ | hframe
  · refine ⟨?_, ?_, ?_, ?_, ?_⟩ <;> simp only [Trace.append, Desk.afterStart, List.length_append]
    · simp [Engine.start, Timeline.begin, h.generation, Generation.next]
    · simp [Engine.start]
    · simp [Engine.start, h.subscriptions]
    · simp only [subscriptionsOf_append, h.ordered, (Engine.requests_start ..).2, h.subscriptions,
        (AskNothing.of_aside haside).subscriptions, channels_concat, List.append_nil]
    · simp [Desk.length_closeIn, h.feeds]
  · refine ⟨?_, ?_, ?_, ?_, ?_⟩ <;> simp only [Trace.append, hframe.started, List.append_nil]
    · exact hframe.generation.trans h.generation
    · exact hframe.selection.trans h.selection
    · exact hframe.subscriptions.trans h.subscriptions
    · rw [subscriptionsOf_append, hframe.orders.subscriptions, List.append_nil, h.ordered]
    · exact hframe.feeds.trans h.feeds

/-- What holds of the ticks. -/
structure TicksKept (t : Trace) : Prop where
  sent : ∀ s ∈ t.sent, s.1 < t.started.length
  fed : ∀ f ∈ t.fed, f.1.number ≤ t.started.length
  session : ∀ s, t.desk.engine.session = some s → SessionKept t s

/-- The ticks are kept by what neither sends nor feeds one. -/
theorem TicksKept.of_same (h : TicksKept t) (hstarted : u.started = [])
    (hsession : u.desk.engine.session = t.desk.engine.session)
    (hfeeds : ∀ (s : Nat) (q : TickQueue), t.desk.feeds[s]? = some q →
      ∃ q' : TickQueue, u.desk.feeds[s]? = some q' ∧ q'.ticks = q.ticks)
    (hsent : u.sent = []) (hfed : u.fed = []) : TicksKept (t.append u) := by
  refine ⟨?_, ?_, fun s hs => ?_⟩
  · simpa [append, hstarted, hsent] using h.sent
  · simpa [append, hstarted, hfed] using h.fed
  · have hold := h.session s (hsession.symm.trans hs)
    obtain ⟨q, hq, hticks⟩ := hold.ticks
    obtain ⟨q', hq', hsame⟩ := hfeeds _ q hq
    have hsentOn : (t.append u).sentOn s.subscription = t.sentOn s.subscription := by
      simp [sentOn, append, hsent]
    have hfedIn : (t.append u).fedIn s.generation = t.fedIn s.generation := by
      simp [fedIn, append, hfed]
    refine ⟨?_, ?_, ?_, ⟨q', hq', ?_⟩, ?_⟩
    · simp [append, hstarted, hold.generation]
    · simp [append, hstarted, hold.selection]
    · simp [append, hstarted, hold.subscription]
    · rw [hsentOn, hfedIn, hsame, hticks]
    · rw [hfedIn]
      exact hold.aggregator

/-- A new session: nothing has been sent on its subscription, or fed to its aggregator. -/
theorem TicksKept.start (h : TicksKept t) (hcounts : CountsKept t) (selection : Selection)
    (poll : Option Nat) (count : Nat) (polls : List PollTask) (aside : List Order) :
    TicksKept (t.append (t.desk.afterStart selection poll count polls aside)) := by
  refine ⟨fun s hs => ?_, fun f hf => ?_, fun s hs => ?_⟩
  · simp only [append, Desk.afterStart, List.append_nil, List.length_append] at hs ⊢
    exact Nat.lt_add_right _ (h.sent s hs)
  · simp only [append, Desk.afterStart, List.append_nil, List.length_append] at hf ⊢
    exact Nat.le_add_right_of_le (h.fed f hf)
  · obtain rfl := Option.some.inj hs
    have hgeneration : t.desk.engine.timeline.begin.generation = ⟨t.started.length + 1⟩ := by
      rw [Timeline.begin, hcounts.generation, Generation.next]
    have hfed : t.fed.filter (·.1 = ⟨t.started.length + 1⟩) = [] := by
      refine List.filter_eq_nil_iff.mpr fun f hf heq => ?_
      have hle := h.fed f hf
      simp only [of_decide_eq_true heq] at hle
      omega
    have hsent : t.sent.filter (·.1 = t.started.length) = [] := by
      refine List.filter_eq_nil_iff.mpr fun s hs heq => ?_
      exact Nat.ne_of_lt (h.sent s hs) (of_decide_eq_true heq)
    refine ⟨?_, ?_, ?_, ⟨⟨selection.symbol, [], false, false⟩, ?_, ?_⟩, ⟨[], ?_⟩⟩
    · simp [append, Desk.afterStart, hgeneration]
    · simp [append, Desk.afterStart]
    · simp [append, Desk.afterStart, hcounts.subscriptions]
    · simp [append, Desk.afterStart, hcounts.subscriptions, ← hcounts.feeds,
        ← Desk.length_closeIn t.desk.engine t.desk.feeds]
    · simp [fedIn, sentOn, append, Desk.afterStart, hgeneration, hfed, hcounts.subscriptions, hsent]
    · simp [fedIn, append, Desk.afterStart, hgeneration, hfed, Aggregator.run]

/-- A tick goes from the subscription of the session to its aggregator. -/
theorem TicksKept.tick {q : TickQueue} {tick : Tick} {rest : List Tick} {aggregator : Aggregator}
    {event : Option CandleEvent} (h : TicksKept t) (hs : t.desk.engine.session = some s)
    (hqueue : t.desk.feeds[s.subscription]? = some q) (hticks : q.ticks = tick :: rest)
    (happly : s.aggregator.apply tick = .ok (aggregator, event)) (u : Trace)
    (hsession : u.desk.engine.session = some { s with aggregator })
    (hfeeds : u.desk.feeds = t.desk.feeds.modify s.subscription .pop)
    (hstarted : u.started = []) (hsent : u.sent = []) (hfed : u.fed = [(s.generation, tick)]) :
    TicksKept (t.append u) := by
  have hold := h.session s hs
  have hfedIn : (t.append u).fedIn s.generation = t.fedIn s.generation ++ [tick] := by
    simp [fedIn, append, hfed]
  refine ⟨?_, ?_, fun s' hs' => ?_⟩
  · simpa [append, hstarted, hsent] using h.sent
  · intro f hf
    simp only [append, hfed, hstarted, List.append_nil, List.mem_append, List.mem_singleton] at hf ⊢
    rcases hf with hf | rfl
    · exact h.fed f hf
    · rw [hold.generation]
  · obtain rfl := Option.some.inj (hsession.symm.trans hs')
    obtain ⟨q', hq', hsplit⟩ := hold.ticks
    obtain rfl := Option.some.inj (hqueue.symm.trans hq')
    obtain ⟨events, hrun⟩ := hold.aggregator
    refine ⟨?_, ?_, ?_, ⟨q.pop, ?_, ?_⟩, ⟨events ++ [event], ?_⟩⟩
    · simp [append, hstarted, hold.generation]
    · simp [append, hstarted, hold.selection]
    · simp [append, hstarted, hold.subscription]
    · simp [append, hfeeds, hqueue]
    · have hsentOn : (t.append u).sentOn s.subscription = t.sentOn s.subscription := by
        simp [sentOn, append, hsent]
      rw [hfedIn, hsentOn, ← hsplit, TickQueue.pop, hticks, List.tail_cons, List.append_assoc]
      rfl
    · rw [hfedIn]
      exact Aggregator.run_concat hrun happly

/-- A tick is sent, on the subscription of the session or on another one. -/
theorem TicksKept.send {subscription : Nat} (h : TicksKept t) (hcounts : CountsKept t) (tick : Tick)
    (hlt : subscription < t.desk.feeds.length) :
    TicksKept (t.append
      { desk := { t.desk with feeds := t.desk.feeds.modify subscription (·.push tick) }
        sent := [(subscription, tick)] }) := by
  refine ⟨fun p hp => ?_, ?_, fun s hs => ?_⟩
  · simp only [append, List.append_nil, List.mem_append, List.mem_singleton] at hp ⊢
    rcases hp with hp | rfl
    · exact h.sent p hp
    · rwa [← hcounts.feeds]
  · simpa [append] using h.fed
  · obtain ⟨hgeneration, hselection, hsubscription, ⟨q, hq, hticks⟩, hrun⟩ := h.session s hs
    by_cases heq : subscription = s.subscription
    · refine ⟨by simpa [append] using hgeneration, by simpa [append] using hselection,
        by simpa [append] using hsubscription, ⟨q.push tick, ?_, ?_⟩,
        by simpa [fedIn, append] using hrun⟩
      · simp [append, heq, hq]
      · have hticks := congrArg (· ++ [tick]) hticks
        simpa [fedIn, sentOn, append, heq, TickQueue.push] using hticks
    · refine ⟨by simpa [append] using hgeneration, by simpa [append] using hselection,
        by simpa [append] using hsubscription, ⟨q, ?_, ?_⟩, by simpa [fedIn, append] using hrun⟩
      · simp [append, heq, hq]
      · simpa [fedIn, sentOn, append, heq] using hticks

theorem TicksKept.append (h : TicksKept t) (hcounts : CountsKept t) (he : t.desk.Effect u) :
    TicksKept (t.append u) := by
  have hsame : ∀ (s : Nat) (q : TickQueue), t.desk.feeds[s]? = some q →
      ∃ q' : TickQueue, t.desk.feeds[s]? = some q' ∧ q'.ticks = q.ticks :=
    fun _ q hq => ⟨q, hq, rfl⟩
  cases he with
  | start selection poll count polls aside haside =>
    exact h.start hcounts selection poll count polls aside
  -- No session is left. The tick that broke the engine was fed in the one before.
  | finish poll condition feeds polls orders fed hfeeds horders hfed =>
    refine ⟨?_, fun f hf => ?_, fun s hs => nomatch hs⟩
    · simpa [Trace.append] using h.sent
    · simp only [Trace.append, List.append_nil, List.mem_append] at hf ⊢
      rcases hf with hf | hf
      · exact h.fed f hf
      · obtain ⟨s, hs, hgeneration⟩ := hfed f hf
        rw [hgeneration, (h.session s hs).generation]
  | tick session q tick rest aggregator event polls aside haside hsession hqueue hticks happly =>
    exact h.tick hsession hqueue hticks happly _ rfl rfl rfl rfl rfl
  | send subscription tick hlt => exact h.send hcounts tick hlt
  -- No tick is sent or fed.
  | history a rest timeline polls aside haside hwaits hgeneration =>
    exact h.of_same rfl rfl hsame rfl rfl
  | answer load task result place hload hstate => exact h.of_same rfl rfl hsame rfl rfl
  | unheard load => exact h.of_same rfl rfl hsame rfl rfl
  | endFeed subscription =>
    -- A feed that goes away leaves the ticks that it has sent.
    refine h.of_same rfl rfl (fun s q hq => ?_) rfl rfl
    refine ⟨_, (List.getElem?_modify ..).trans (congrArg _ hq), ?_⟩
    by_cases hs : subscription = s <;> simp [hs, TickQueue.finish]
  | beside poll count polls indicators now nextPoll aside haside =>
    exact h.of_same rfl rfl hsame rfl rfl

/-! ## Every trace -/

/-- What holds of a trace. -/
structure Kept (t : Trace) : Prop where
  loads : LoadsKept t
  counts : CountsKept t
  ticks : TicksKept t

theorem kept_initial (settings : Settings) : Kept (initial settings) where
  loads := ⟨rfl, rfl, fun _ h => (List.not_mem_nil h).elim, List.nodup_nil⟩
  counts := ⟨rfl, rfl, rfl, rfl, rfl⟩
  ticks := ⟨fun _ h => (List.not_mem_nil h).elim, fun _ h => (List.not_mem_nil h).elim,
    fun _ h => nomatch h⟩

theorem Kept.append (h : Kept t) (he : t.desk.Effect u) : Kept (t.append u) :=
  ⟨h.loads.append h.counts.generation he, h.counts.append he, h.ticks.append h.counts he⟩

theorem Kept.after (h : Kept t) (moves : List Move) : Kept (t.after moves) :=
  after_of_move (fun t m h => h.append (t.desk.effect_moved m)) h moves

/-- A history came of a started selection, and is tagged with the generation that this began. -/
theorem LoadsKept.tag_mem (h : LoadsKept t) {a : LoadedHistory} (ha : a ∈ t.answered) :
    a.tag ∈ generations t.started := by
  obtain ⟨l, hl, -, htag⟩ := h.spawned a ha
  rw [← h.loads, ← htag]
  exact List.mem_map_of_mem hl

/-- The history is of the newest start, its selection is the present one, and no history of its
generation was handled yet. -/
structure IsNewest (t : Trace) (h : LoadedHistory) : Prop where
  generation : h.generation = ⟨t.started.length⟩
  started : t.started.getLast? = some h.selection
  selection : t.desk.engine.selection = some h.selection
  first : ∀ a ∈ t.handled, a.generation ≠ h.generation

/-- All that the engine gets is of the newest start, or does nothing: the histories that it handles,
and the ticks that its aggregator is fed. -/
structure NewestWins (t : Trace) : Prop where
  /-- Each start orders one load, tagged with the generation that it begins, and one
  subscription. -/
  loads : loadsOf t.orders = generations t.started
  subscriptions : subscriptionsOf t.orders = channels t.started
  /-- A history that was handled or waits came of one of these loads, and no other came of it. -/
  tagged : ∀ a ∈ t.answered, a.tag ∈ generations t.started
  once : (t.answered.map LoadedHistory.generation).Nodup
  /-- The history that is handled next is of the newest start, and otherwise changes nothing but
  that it does not wait any more. -/
  history : ∀ h rest, t.desk.isRunning → t.desk.histories = h :: rest →
    IsNewest t h ∨ h.generation.number < t.started.length ∧
      t.desk.step .takeHistory = ({ t.desk with histories := rest }, [])
  /-- The session is that of the newest start. Its aggregator was fed what was sent on the
  subscription of that start, and nothing else. -/
  session : ∀ s, t.desk.engine.session = some s →
    s.generation = ⟨t.started.length⟩ ∧ t.started.getLast? = some s.selection ∧
      (∃ q, t.desk.queue? = some q ∧
        t.fedIn s.generation ++ q.ticks = t.sentOn (t.started.length - 1)) ∧
      ∃ events, (Aggregator.empty s.selection.symbol s.selection.timeframe).run
        (t.fedIn s.generation) = .ok (s.aggregator, events)

theorem Kept.history (hk : Kept t) {h : LoadedHistory} {rest : List LoadedHistory}
    (hrun : t.desk.isRunning) (hwaits : t.desk.histories = h :: rest) :
    IsNewest t h ∨ h.generation.number < t.started.length ∧
      t.desk.step .takeHistory = ({ t.desk with histories := rest }, []) := by
  have hmem : h ∈ t.answered := by simp [answered, hwaits]
  obtain ⟨hpos, hstarted⟩ := mem_generations (hk.loads.tag_mem hmem)
  have hlt := (List.getElem?_eq_some_iff.mp hstarted).1
  by_cases hnew : h.generation = ⟨t.started.length⟩
  · rw [hnew, ← List.getLast?_eq_getElem?] at hstarted
    refine .inl ⟨hnew, hstarted, hk.counts.selection.trans hstarted, fun a ha heq => ?_⟩
    have honce := hk.loads.once
    rw [answered, List.map_append, hwaits] at honce
    exact List.disjoint_of_nodup_append honce (heq ▸ List.mem_map_of_mem ha) List.mem_cons_self
  · have hne : h.generation ≠ t.desk.engine.timeline.generation := hk.counts.generation ▸ hnew
    refine .inr ⟨?_, ?_⟩
    · have hne' : h.generation.number ≠ t.started.length := fun heq => hnew (heq ▸ rfl)
      omega
    · simp only [Desk.step, Desk.whenRunning, if_pos hrun, Desk.handleHistory, hwaits,
        Engine.onHistory_stale hne]
      rfl

/-- **The newest selection wins.** Whatever the owner of an engine commands, whatever ticks are sent
on whatever subscriptions, and in whatever order the loads are answered, those included that were
given up: a history that the engine handles is the first one that came of the newest start, or does
nothing at all; and what the aggregator was fed, in this order and without a gap, was sent on the
subscription of the newest start. -/
theorem newest_selection_wins (settings : Settings) (moves : List Move) :
    NewestWins ((initial settings).after moves) := by
  have hk := (kept_initial settings).after moves
  refine
    { loads := hk.loads.ordered
      subscriptions := hk.counts.ordered
      tagged := fun a ha => hk.loads.tag_mem ha
      once := hk.loads.once
      history := fun h rest => hk.history
      session := fun s hs => ?_ }
  obtain ⟨hgeneration, hselection, hsubscription, ⟨q, hq, hticks⟩, hrun⟩ := hk.ticks.session s hs
  refine ⟨hgeneration, hselection, ⟨q, ?_, ?_⟩, hrun⟩
  · rw [Desk.queue?, hs, Option.bind_some, hq]
  · rw [← hsubscription]
    exact hticks

/-- Two selections and the first one again. What was loaded for the first start comes last, although
it was given up: only its generation tells that it is not for the third. -/
example :
    let other : Selection := ⟨⟨"ETH-USD"⟩, .m1⟩
    let t := (initial .standard).after
      [.usual (.select Aggregator.byMinute), .usual (.select other),
        .usual (.select Aggregator.byMinute), .late 0 (.ok .noData) 0]
    t.desk.isRunning ∧ t.desk.histories.map LoadedHistory.tag = [(⟨1⟩, Aggregator.byMinute)] ∧
      t.desk.engine.selection = some Aggregator.byMinute ∧ t.started.length = 3 := by
  decide

end Trace

end TickChart
