import TickChart.Proofs.Newest
import TickChart.Proofs.Shown
import TickChart.Proofs.Turns

/-!
# The ticker

A display shows the tick that the engine took last, and nothing ever takes it away. It is a tick of
the symbol for which the session was started that took it. The series, its state and the overlay are
all made anew when another symbol is selected; the ticker stays.

* `Desk.Turn.tickers`, `Desk.tickersBy_inputBy`: a move tells of the tick that it feeds.
* `Trace.FedSent`: what was fed was sent, on the subscription of its generation.
* `Trace.Faithful`: the feed sends ticks of the symbol that it was asked for.
* `TickerFollows`, `ticker_follows_sessions`: whose tick is shown, for every trace.
* `ticker_of_deselected`: it need not be one of the selected symbol.
-/

namespace TickChart

namespace Desk

variable {d : Desk} {input? : Option Engine.Input} {result : Desk × List Order}

/-- What a turn tells of the ticker is what the handling of its input does. -/
theorem Turn.tickers (h : d.Turn input? result) :
    tickersOf result.2 = (input?.map d.engine.tickersBy).getD [] := by
  cases h with
  | rest h => rfl
  | @handle d' input next orders h hrun hpoll hstep =>
    have htells := (d'.engine.handle_tells input).2
    rw [hstep, h.engine] at htells
    exact htells
  | @fault d' tick fault orders h hstep =>
    have htells := (d'.engine.onTick_tells tick).2
    rw [hstep, h.engine] at htells
    have hclosing := d'.engine.tellNothing_closing.tickers
    have happend : tickersOf (d'.afterFault fault orders).2 = tickersOf orders ++ [] := by
      rw [← hclosing, ← tickersOf_append]
      rfl
    rw [happend, List.append_nil]
    exact htells
  | shutdown =>
    have hclosing := d.engine.tellNothing_closing
    have hpoll := d.engine.tellNothing_leavePoll d.pollUnderway
    rw [afterShutdown_eq]
    exact (hclosing.append hpoll).tickers

theorem dueTick_cases (d : Desk) :
    d.dueTick = [] ∨ ∃ session q tick rest, d.engine.session = some session ∧
      d.feeds[session.subscription]? = some q ∧ q.ticks = tick :: rest ∧
      d.dueTick = [(session.generation, tick)] := by
  unfold dueTick
  split
  · next session symbol tick rest closed ended hsession hqueue =>
    rw [queue?, hsession, Option.bind_some] at hqueue
    exact .inr ⟨session, _, tick, rest, hsession, hqueue, rfl, rfl⟩
  · exact .inl rfl

/-- The tick that a move feeds is the one that it tells of. -/
theorem tickersBy_inputBy (d : Desk) (m : Move) :
    ((d.inputBy m).map d.engine.tickersBy).getD [] = (d.fedBy m).map Prod.snd := by
  unfold inputBy
  cases hrun : d.isRunning with
  | false =>
    have hnone : d.fedBy m = [] := by
      cases m with
      | late load result place => rfl
      | usual o =>
        cases o with
        | takeTick => simp [fedBy, hrun]
        | _ => rfl
    rw [hnone]
    rfl
  | true =>
    cases m with
    | late load result place => rfl
    | usual o =>
      cases o with
      -- A tick is told of only if there is a session, and only then is one due.
      | takeTick =>
        simp only [fedBy, hrun, if_true]
        rcases d.dueTick_cases with hdue | ⟨session, q, tick, rest, hsession, -, -, hdue⟩
        · rw [hdue]
          rfl
        · rw [hdue]
          simp [Engine.tickersBy, hsession]
      | takeHistory => cases d.histories <;> rfl
      | takeIndicators => cases d.indicators <;> rfl
      | timer =>
        simp only [if_true]
        split <;> rfl
      | _ => rfl

/-- A move tells of the tick that it feeds. -/
theorem tickersOf_move (d : Desk) (m : Move) :
    tickersOf (d.move m).2 = (d.fedBy m).map Prod.snd :=
  (d.turn_move m).tickers.trans (d.tickersBy_inputBy m)

end Desk

namespace Trace

variable {t : Trace}

/-- What was fed was sent, on the subscription of its generation. -/
def FedSent (t : Trace) : Prop := ∀ f ∈ t.fed, ∃ n, f.1 = ⟨n + 1⟩ ∧ (n, f.2) ∈ t.sent

/-- The feed sends ticks of the symbol that it was asked for. -/
def Faithful (t : Trace) : Prop := ∀ p ∈ t.sent, (p.1, p.2.symbol) ∈ subscriptionsOf t.orders

instance (t : Trace) : Decidable (Faithful t) :=
  inferInstanceAs (Decidable (∀ p ∈ t.sent, (p.1, p.2.symbol) ∈ subscriptionsOf t.orders))

/-- The tick that is next was sent on the subscription of the present session. -/
theorem Kept.dueTick_sent (h : Kept t) {f : Generation × Tick} (hf : f ∈ t.desk.dueTick) :
    ∃ n, f.1 = ⟨n + 1⟩ ∧ (n, f.2) ∈ t.sent := by
  rcases t.desk.dueTick_cases with hdue | ⟨session, q, tick, rest, hsession, hq, hticks, hdue⟩
  · rw [hdue] at hf
    exact absurd hf List.not_mem_nil
  · rw [hdue, List.mem_singleton] at hf
    subst hf
    obtain ⟨hgeneration, -, hsubscription, ⟨q', hq', hsplit⟩, -⟩ := h.ticks.session session hsession
    obtain rfl := Option.some.inj (hq.symm.trans hq')
    have hmem : tick ∈ t.sentOn session.subscription := by
      rw [← hsplit, hticks]
      simp
    obtain ⟨p, hp, rfl⟩ := List.mem_map.mp hmem
    obtain ⟨hsent, hnumber⟩ := List.mem_filter.mp hp
    refine ⟨session.subscription, by rw [hgeneration, hsubscription], ?_⟩
    rw [← of_decide_eq_true hnumber]
    exact hsent

/-- What holds of the ticks that were fed and shown. -/
structure Told (t : Trace) : Prop where
  kept : Kept t
  tickers : tickersOf t.orders = t.fed.map Prod.snd
  sent : FedSent t

theorem told_initial (settings : Settings) : Told (initial settings) :=
  ⟨kept_initial settings, rfl, fun _ hf => absurd hf List.not_mem_nil⟩

theorem Told.move (h : Told t) (m : Move) : Told (t.append (t.desk.moved m)) where
  kept := h.kept.append (t.desk.effect_moved m)
  tickers := by
    simp only [append, Desk.moved, tickersOf_append, List.map_append]
    rw [h.tickers, t.desk.tickersOf_move m]
  sent := by
    intro f hf
    simp only [append, Desk.moved, List.mem_append] at hf ⊢
    rcases hf with hf | hf
    · obtain ⟨n, hn, hsent⟩ := h.sent f hf
      exact ⟨n, hn, .inl hsent⟩
    · have hdue : f ∈ t.desk.dueTick := by
        unfold Desk.fedBy at hf
        split at hf
        · split at hf
          · exact hf
          · exact absurd hf List.not_mem_nil
        · exact absurd hf List.not_mem_nil
      obtain ⟨n, hn, hsent⟩ := h.kept.dueTick_sent hdue
      exact ⟨n, hn, .inl hsent⟩

/-- A tick that was fed is of the symbol of the selection that began its generation. -/
theorem Told.selection_of_fed (h : Told t) (hfeed : Faithful t) {f : Generation × Tick}
    (hf : f ∈ t.fed) :
    ∃ selection, (f.1, selection) ∈ generations t.started ∧ selection.symbol = f.2.symbol := by
  obtain ⟨n, hn, hsent⟩ := h.sent f hf
  have hordered := hfeed _ hsent
  rw [h.kept.counts.ordered, channels, List.mem_mapIdx] at hordered
  obtain ⟨i, hi, heq⟩ := hordered
  obtain ⟨rfl, hsymbol⟩ := Prod.mk.inj heq
  refine ⟨t.started[i], ?_, hsymbol⟩
  rw [hn, generations, List.mem_mapIdx]
  exact ⟨i, hi, rfl⟩

/-- Of the starts, the last one is among those after a generation, unless this is the last. -/
theorem getLast?_started {started : List Selection} {g : Generation} {selection last : Selection}
    (hg : (g, selection) ∈ generations started) (hlast : started.getLast? = some last) :
    last = selection ∨ last ∈ started.drop g.number := by
  obtain ⟨hpos, hstarted⟩ := mem_generations hg
  have hlt := (List.getElem?_eq_some_iff.mp hstarted).1
  by_cases hle : started.length ≤ g.number
  · have hindex : started.length - 1 = g.number - 1 := by omega
    rw [List.getLast?_eq_getElem?, hindex, hstarted] at hlast
    exact .inl (Option.some.inj hlast).symm
  · have hdrop := List.getLast?_drop (l := started) (i := g.number)
    rw [if_neg hle, hlast] at hdrop
    exact .inr (List.mem_of_getLast? hdrop)

/-- The ticker is the tick that was fed last, and of the symbol in whose session that was. -/
structure TickerFollows (t : Trace) : Prop where
  /-- It is the tick that was fed last, if there is one. -/
  last : (Display.blank.afterAll (calls t.orders)).ticker = t.fed.getLast?.map Prod.snd
  /-- It is of the symbol of the selection in whose session it was fed. -/
  own : ∀ g tick, t.fed.getLast? = some (g, tick) →
    ∃ selection, (g, selection) ∈ generations t.started ∧ selection.symbol = tick.symbol
  /-- This is the selected symbol, unless another one has been selected since. -/
  selected : ∀ g tick, t.fed.getLast? = some (g, tick) →
    (∀ s ∈ t.started.drop g.number, s.symbol = tick.symbol) →
      t.desk.engine.symbol? = some tick.symbol

/-- **The ticker follows the sessions.** Whatever the owner of an engine commands, and whatever
comes of the tasks beside it: if the feed sends ticks of the symbols that it was asked for, the
ticker is the tick that was fed last, and of the symbol of the selection in whose session that was.
So it is of the selected symbol as long as no other symbol has been selected since. -/
theorem ticker_follows_sessions (settings : Settings) (moves : List Move)
    (hfeed : Faithful ((initial settings).after moves)) :
    TickerFollows ((initial settings).after moves) := by
  have h : Told ((initial settings).after moves) :=
    after_of_move (fun _ m h => h.move m) (told_initial settings) moves
  refine ⟨?_, fun g tick hlast => ?_, fun g tick hlast hsince => ?_⟩
  · have hticker := Display.ticker_afterAll .blank (calls ((initial settings).after moves).orders)
    have htickers := h.tickers
    rw [tickersOf] at htickers
    rw [hticker, htickers, List.getLast?_map]
    exact Option.or_none
  · exact h.selection_of_fed hfeed (List.mem_of_getLast? hlast)
  · obtain ⟨selection, hg, hsymbol⟩ := h.selection_of_fed hfeed (List.mem_of_getLast? hlast)
    obtain ⟨-, hstarted⟩ := mem_generations hg
    have hne := List.ne_nil_of_mem (List.mem_of_getElem? hstarted)
    have hpresent := List.getLast?_eq_getLast_of_ne_nil hne
    rw [Engine.symbol?, h.kept.counts.selection, hpresent, Option.map_some]
    rcases getLast?_started hg hpresent with heq | hmem
    · rw [heq, hsymbol]
    · rw [hsince _ hmem]

/-- A tick of one symbol is taken, and then another symbol is selected. -/
def deselected : List Move :=
  [.usual (.select Aggregator.byMinute), .usual (.send 0 (Aggregator.purchase 1 0)),
    .usual .takeTick, .usual (.select ⟨⟨"ETH-USD"⟩, .m1⟩)]

theorem ticker_follows_deselected :
    Faithful ((initial .standard).after deselected) ∧
      TickerFollows ((initial .standard).after deselected) := by
  have hfeed : Faithful ((initial .standard).after deselected) := by decide
  exact ⟨hfeed, ticker_follows_sessions .standard deselected hfeed⟩

/-- The ticker stays when another symbol is selected: until there is a tick of that one, the tick of
the old symbol is shown. -/
theorem ticker_of_deselected :
    ¬ ∀ (settings : Settings) (moves : List Move), Faithful ((initial settings).after moves) →
      ∀ tick, (Display.blank.afterAll (calls ((initial settings).after moves).orders)).ticker =
        some tick → ((initial settings).after moves).desk.engine.symbol? = some tick.symbol := by
  intro h
  have hselected := h .standard deselected (by decide) (Aggregator.purchase 1 0) (by decide)
  exact absurd hselected (by decide)

end Trace

end TickChart
