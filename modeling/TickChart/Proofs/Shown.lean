import Mathlib.Data.List.Induction
import TickChart.Proofs.Aggregator
import TickChart.Proofs.Requests

/-!
# The overlay and the ticker

A display keeps the overlay and the ticker that it was told last. Of what an engine handles, a tick
is all that the ticker is told of; the overlay is told of a switch to another symbol, and of a poll
of the selected one.

* `Display.overlay_afterAll`, `Display.ticker_afterAll`: what is shown is what was told last.
* `overlaysBy`, `tickersBy`, `handle_tells`: what a handler tells of the two.
* `selectedIn`, `overlayFor`: the symbol that inputs selected last, and the overlay that they make
  for a symbol.
* `SinceSwitch`: the inputs since a symbol was switched to.
* `overlay_of_selected_symbol`: after every run, the overlay is that of the selected symbol.
-/

namespace TickChart

/-- The overlay that a call tells of. -/
def SurfaceCall.overlay? : SurfaceCall → Option Overlay
  | .overlay o => some o
  | _ => none

/-- The tick that a call tells of. -/
def SurfaceCall.ticker? : SurfaceCall → Option Tick
  | .ticker tick => some tick
  | _ => none

namespace Display

/-- What is replaced by every call that tells of it is, after all calls, the last that was told. -/
theorem afterAll_last {α : Type} (part : Display → Option α) (told? : SurfaceCall → Option α)
    (h : ∀ d c, part (d.after c) = (told? c).or (part d)) (d : Display) (calls : List SurfaceCall) :
    part (d.afterAll calls) = (calls.filterMap told?).getLast?.or (part d) := by
  induction calls generalizing d with
  | nil => rfl
  | cons c calls ih =>
    rw [afterAll_cons, ih, h]
    cases hc : told? c with
    | none => rw [List.filterMap_cons_none hc, Option.none_or]
    | some x =>
      rw [List.filterMap_cons_some hc, List.getLast?_cons]
      cases (calls.filterMap told?).getLast? <;> rfl

theorem overlay_afterAll (d : Display) (calls : List SurfaceCall) :
    (d.afterAll calls).overlay = (calls.filterMap SurfaceCall.overlay?).getLast?.or d.overlay :=
  afterAll_last overlay SurfaceCall.overlay? (fun d c => by cases c <;> rfl) d calls

theorem ticker_afterAll (d : Display) (calls : List SurfaceCall) :
    (d.afterAll calls).ticker = (calls.filterMap SurfaceCall.ticker?).getLast?.or d.ticker :=
  afterAll_last ticker SurfaceCall.ticker? (fun d c => by cases c <;> rfl) d calls

end Display

/-- The overlays that orders tell of. -/
def overlaysOf (orders : List Order) : List Overlay :=
  (calls orders).filterMap SurfaceCall.overlay?

/-- The ticks that orders tell of. -/
def tickersOf (orders : List Order) : List Tick :=
  (calls orders).filterMap SurfaceCall.ticker?

theorem overlaysOf_append (a b : List Order) :
    overlaysOf (a ++ b) = overlaysOf a ++ overlaysOf b := by
  rw [overlaysOf, calls_append, List.filterMap_append]
  rfl

theorem tickersOf_append (a b : List Order) : tickersOf (a ++ b) = tickersOf a ++ tickersOf b := by
  rw [tickersOf, calls_append, List.filterMap_append]
  rfl

theorem overlaysOf_cons (o : Order) (orders : List Order) :
    overlaysOf (o :: orders) = overlaysOf [o] ++ overlaysOf orders := overlaysOf_append [o] orders

theorem tickersOf_cons (o : Order) (orders : List Order) :
    tickersOf (o :: orders) = tickersOf [o] ++ tickersOf orders := tickersOf_append [o] orders

/-- Orders that tell of neither an overlay nor a tick. -/
structure TellNothing (orders : List Order) : Prop where
  overlays : overlaysOf orders = []
  tickers : tickersOf orders = []

namespace TellNothing

variable {a b : List Order} {cs : List SurfaceCall}

theorem append (ha : TellNothing a) (hb : TellNothing b) : TellNothing (a ++ b) :=
  ⟨by rw [overlaysOf_append, ha.overlays, hb.overlays]; rfl,
    by rw [tickersOf_append, ha.tickers, hb.tickers]; rfl⟩

theorem of_calls (h : ∀ c ∈ calls a, c.overlay? = none ∧ c.ticker? = none) : TellNothing a :=
  ⟨List.filterMap_eq_nil_iff.mpr fun c hc => (h c hc).1,
    List.filterMap_eq_nil_iff.mpr fun c hc => (h c hc).2⟩

end TellNothing

/-- A change of the series is neither an overlay nor a tick. -/
theorem SeriesChange.call_tells_nothing (change : SeriesChange) :
    change.call.overlay? = none ∧ change.call.ticker? = none := by
  cases change <;> exact ⟨rfl, rfl⟩

namespace Engine

variable {e : Engine}

/-! ## Handlers -/

theorem tellNothing_start (e : Engine) (selection : Selection) :
    TellNothing (e.start selection).2 := by
  refine .of_calls fun c hc => ?_
  rw [calls_start] at hc
  rcases List.mem_cons.mp hc with rfl | hc
  · exact ⟨rfl, rfl⟩
  · rw [List.mem_singleton.mp hc]
    exact ⟨rfl, rfl⟩

theorem tellNothing_startPoll (e : Engine) (force underway : Bool) :
    TellNothing (e.startPoll force underway).2 := by
  refine .of_calls fun c hc => ?_
  rw [calls_startPoll] at hc
  exact absurd hc List.not_mem_nil

theorem tellNothing_closing (e : Engine) : TellNothing e.closing := by
  refine .of_calls fun c hc => ?_
  rw [calls_closing] at hc
  exact absurd hc List.not_mem_nil

theorem tellNothing_leavePoll (e : Engine) (underway : Bool) :
    TellNothing (e.leavePoll underway) := by
  unfold leavePoll
  cases e.poll with
  | none => exact ⟨rfl, rfl⟩
  | some poll => cases underway <;> exact ⟨rfl, rfl⟩

theorem tellNothing_replay (t : Timeline) (live : List Candle) :
    ∀ c ∈ (replay t live).2, c.overlay? = none ∧ c.ticker? = none := by
  induction live generalizing t with
  | nil => exact fun c hc => absurd hc List.not_mem_nil
  | cons candle live ih =>
    simp only [replay]
    split
    · next grown change _ =>
      intro c hc
      rcases List.mem_cons.mp hc with rfl | hc
      · exact change.call_tells_nothing
      · exact ih grown c hc
    · exact ih t

theorem tellNothing_onHistory (e : Engine) (generation : Generation) (selection : Selection)
    (result : HistoryResult) : TellNothing (e.onHistory generation selection result).2 := by
  refine .of_calls ?_
  by_cases hg : generation = e.timeline.generation
  · subst hg
    match result with
    | .ok (.loaded candles) =>
      intro c hc
      rw [(onHistory_loaded e selection candles).2] at hc
      rcases List.mem_cons.mp hc with rfl | hc
      · exact ⟨rfl, rfl⟩
      · rcases List.mem_cons.mp hc with rfl | hc
        · exact ⟨rfl, rfl⟩
        · exact tellNothing_replay _ _ c hc
    | .ok .noData => simp [onHistory, calls, Order.call?, SurfaceCall.overlay?, SurfaceCall.ticker?]
    | .error error =>
      simp [onHistory, calls, Order.call?, SurfaceCall.overlay?, SurfaceCall.ticker?]
  · rw [onHistory_stale hg]
    exact fun c hc => absurd hc List.not_mem_nil

theorem tellNothing_followTick (e : Engine) (session : Session) (aggregator : Aggregator)
    (event : Option CandleEvent) : TellNothing (e.followTick session aggregator event).2 := by
  simp only [followTick]
  split
  · exact ⟨rfl, rfl⟩
  · split
    · next change _ =>
      obtain ⟨hoverlay, hticker⟩ := change.call_tells_nothing
      refine .of_calls fun c hc => ?_
      rw [List.mem_singleton.mp hc]
      exact ⟨hoverlay, hticker⟩
    · exact ⟨rfl, rfl⟩

/-- A tick is told of, whatever comes of it, if there is a session. -/
theorem onTick_tells (e : Engine) (tick : Tick) :
    overlaysOf (e.onTick tick).2 = [] ∧
      tickersOf (e.onTick tick).2 = if e.session.isSome then [tick] else [] := by
  simp only [onTick]
  split
  · next hs => rw [hs]; exact ⟨rfl, rfl⟩
  · next session hs =>
    rw [hs]
    split
    · next aggregator event _ =>
      have hnothing := tellNothing_followTick e session aggregator event
      rw [overlaysOf_cons, tickersOf_cons, hnothing.overlays, hnothing.tickers]
      exact ⟨rfl, rfl⟩
    · exact ⟨rfl, rfl⟩

/-- The overlays that the handling of an input tells of: an empty one for a symbol that is switched
to, and the rows of a poll of the selected symbol. -/
def overlaysBy (e : Engine) : Input → List Overlay
  | .select selection _ =>
    if e.symbol? = some selection.symbol then [] else [.empty selection.symbol]
  | .indicators symbol (.ok points) =>
    if e.symbol? = some symbol then [.ofPoints symbol points] else []
  | .indicators _ (.error _) | .retry _ | .history _ _ _ | .tick _ | .timer _ => []

/-- The ticks that the handling of an input tells of. -/
def tickersBy (e : Engine) : Input → List Tick
  | .tick tick => if e.session.isSome then [tick] else []
  | .select _ _ | .retry _ | .history _ _ _ | .indicators _ _ | .timer _ => []

theorem select_tells (e : Engine) (selection : Selection) (underway : Bool) :
    overlaysOf (e.select selection underway).2 =
        (if e.symbol? = some selection.symbol then [] else [.empty selection.symbol]) ∧
      tickersOf (e.select selection underway).2 = [] := by
  have hstart := tellNothing_start e selection
  simp only [select]
  split
  · exact ⟨hstart.overlays, hstart.tickers⟩
  · have hpoll := tellNothing_startPoll (e.start selection).1 true underway
    rw [overlaysOf_append, overlaysOf_cons, tickersOf_append, tickersOf_cons, hstart.overlays,
      hstart.tickers, hpoll.overlays, hpoll.tickers]
    exact ⟨rfl, rfl⟩

theorem tellNothing_retry (e : Engine) (underway : Bool) : TellNothing (e.retry underway).2 := by
  simp only [retry]
  split
  · exact ⟨rfl, rfl⟩
  · next selection _ =>
    exact (tellNothing_start e selection).append (tellNothing_startPoll _ true underway)

/-- What the handling of an input tells of, whether there is a fault or not. -/
theorem handle_tells (e : Engine) (input : Input) :
    overlaysOf (e.handle input).2 = e.overlaysBy input ∧
      tickersOf (e.handle input).2 = e.tickersBy input := by
  cases input with
  | select selection underway => exact select_tells e selection underway
  | retry underway =>
    have h := tellNothing_retry e underway
    exact ⟨h.overlays, h.tickers⟩
  | history generation selection result =>
    have h := tellNothing_onHistory e generation selection result
    exact ⟨h.overlays, h.tickers⟩
  | tick tick => exact onTick_tells e tick
  | indicators symbol result =>
    simp only [handle, answer, onIndicators, overlaysBy, tickersBy]
    cases result with
    | error error =>
      split <;> exact ⟨rfl, rfl⟩
    | ok points =>
      simp only []
      split <;> exact ⟨rfl, rfl⟩
  | timer underway =>
    have h := tellNothing_startPoll e false underway
    exact ⟨h.overlays, h.tickers⟩

theorem overlay_handle (d : Display) (e : Engine) (input : Input) :
    (d.afterAll (calls (e.handle input).2)).overlay =
      (e.overlaysBy input).getLast?.or d.overlay := by
  rw [Display.overlay_afterAll, ← (handle_tells e input).1]
  rfl

/-! ## Selections -/

/-- The symbol that an input selects. -/
def Input.symbol? : Input → Option Symbol
  | .select selection _ => some selection.symbol
  | .retry _ | .history _ _ _ | .tick _ | .indicators _ _ | .timer _ => none

/-- The symbol that inputs selected last. -/
def selectedIn (inputs : List Input) : Option Symbol := (inputs.filterMap Input.symbol?).getLast?

theorem selectedIn_concat (inputs : List Input) (input : Input) :
    selectedIn (inputs ++ [input]) = input.symbol?.or (selectedIn inputs) := by
  rw [selectedIn, List.filterMap_append, List.getLast?_append]
  cases h : input.symbol? with
  | none => rw [List.filterMap_cons_none h]; rfl
  | some symbol => rw [List.filterMap_cons_some h]; rfl

/-- An engine that has handled an input has selected its symbol, or the same one as before. -/
theorem symbol?_handle {next : Engine} {input : Input} {orders : List Order}
    (h : e.handle input = (.ok next, orders)) : next.symbol? = input.symbol?.or e.symbol? := by
  cases hs : e.startedBy input with
  | none =>
    have hsymbol : input.symbol? = none := by
      cases input with
      | select selection underway => cases hs
      | _ => rfl
    rw [hsymbol, Option.none_or, symbol?, symbol?, (handle_of_not_started h hs).1.selection]
  | some selection =>
    obtain ⟨poll, polls, aside, hnext, -⟩ := handle_of_started h hs
    obtain ⟨rfl, -⟩ := Prod.mk.inj hnext
    have hstart : (e.start selection).1.selection = some selection := rfl
    rw [symbol?, hstart]
    cases input with
    | select selection' underway =>
      obtain rfl := Option.some.inj hs
      rfl
    | retry underway =>
      have hselection : e.selection = some selection := hs
      rw [symbol?, hselection]
      rfl
    | _ => cases hs

/-- The selected symbol of an engine is the one that was selected last. -/
theorem symbol?_run {last : Engine} {inputs : List Input} {orders : List Order}
    (h : initial.run inputs = (.ok last, orders)) : last.symbol? = selectedIn inputs := by
  induction inputs using List.reverseRecOn generalizing last orders with
  | nil =>
    cases h
    rfl
  | append_singleton inputs input ih =>
    obtain ⟨next, first, more, hrun, hstep, -⟩ := run_concat_ok h
    rw [symbol?_handle hstep, ih hrun, selectedIn_concat]

/-! ## The overlay of the selected symbol -/

/-- The rows for a symbol that an input brings, if the poll succeeded. -/
def Input.pointsFor? (symbol : Symbol) : Input → Option (List IndicatorPoint)
  | .indicators s (.ok points) => if s = symbol then some points else none
  | .indicators _ (.error _) | .select _ _ | .retry _ | .history _ _ _ | .tick _ | .timer _ => none

/-- The overlay of a symbol that was switched to before the inputs: that of the last poll that
succeeded, and an empty one until there is one. -/
def overlayFor (symbol : Symbol) (inputs : List Input) : Overlay :=
  match (inputs.filterMap (Input.pointsFor? symbol)).getLast? with
  | some points => .ofPoints symbol points
  | none => .empty symbol

theorem symbol_overlayFor (symbol : Symbol) (inputs : List Input) :
    (overlayFor symbol inputs).symbol = symbol := by
  unfold overlayFor
  split <;> rfl

/-- `since` are the inputs since the last of them that switched to a symbol from another one, or
from none at all. -/
structure SinceSwitch (inputs : List Input) (symbol : Symbol) (since : List Input) : Prop where
  switched : ∃ before selection underway,
    inputs = before ++ .select selection underway :: since ∧
      selection.symbol = symbol ∧ selectedIn before ≠ some symbol
  kept : ∀ input ∈ since, ∀ s, input.symbol? = some s → s = symbol

/-- Just behind a switch there are no inputs since. -/
theorem sinceSwitch_nil {inputs : List Input} {selection : Selection} (underway : Bool)
    (hne : selectedIn inputs ≠ some selection.symbol) :
    SinceSwitch (inputs ++ [.select selection underway]) selection.symbol [] where
  switched := ⟨inputs, selection, underway, rfl, rfl, hne⟩
  kept _ hmem := absurd hmem List.not_mem_nil

theorem SinceSwitch.concat {inputs since : List Input} {symbol : Symbol} {input : Input}
    (h : SinceSwitch inputs symbol since) (hi : ∀ s, input.symbol? = some s → s = symbol) :
    SinceSwitch (inputs ++ [input]) symbol (since ++ [input]) := by
  obtain ⟨before, selection, underway, rfl, hsymbol, hbefore⟩ := h.switched
  refine ⟨⟨before, selection, underway, by simp, hsymbol, hbefore⟩, fun i hmem => ?_⟩
  rcases List.mem_append.mp hmem with hmem | hmem
  · exact h.kept i hmem
  · rw [List.mem_singleton.mp hmem]
    exact hi

theorem overlayFor_concat (symbol : Symbol) (since : List Input) (input : Input) :
    overlayFor symbol (since ++ [input]) =
      ((input.pointsFor? symbol).map (Overlay.ofPoints symbol)).getD (overlayFor symbol since) := by
  unfold overlayFor
  rw [List.filterMap_append, List.getLast?_append]
  cases h : input.pointsFor? symbol with
  | none => rw [List.filterMap_cons_none h]; rfl
  | some points => rw [List.filterMap_cons_some h]; rfl

/-- While no other symbol is selected, the overlay that was told last is that of the inputs since
the switch. -/
theorem overlaysBy_of_kept {symbol : Symbol} {input : Input} (hs : e.symbol? = some symbol)
    (hi : ∀ s, input.symbol? = some s → s = symbol) (since : List Input) :
    (e.overlaysBy input).getLast?.or (some (overlayFor symbol since)) =
      some (overlayFor symbol (since ++ [input])) := by
  rw [overlayFor_concat]
  cases input with
  | select selection underway =>
    obtain rfl := hi selection.symbol rfl
    rw [overlaysBy, if_pos hs]
    rfl
  | indicators s result =>
    cases result with
    | error error => rfl
    | ok points =>
      rw [overlaysBy, Input.pointsFor?, hs]
      by_cases heq : s = symbol
      · rw [if_pos (congrArg some heq.symm), if_pos heq, heq]
        rfl
      · rw [if_neg fun h => heq (Option.some.inj h).symm, if_neg heq]
        rfl
  | retry underway => rfl
  | history generation selection result => rfl
  | tick tick => rfl
  | timer underway => rfl

/-- Before anything is selected, an input that selects nothing tells of no overlay. -/
theorem overlaysBy_of_none {input : Input} (hs : e.symbol? = none) (hi : input.symbol? = none) :
    e.overlaysBy input = [] := by
  cases input with
  | select selection underway => cases hi
  | indicators s result =>
    cases result with
    | error error => rfl
    | ok points => rw [overlaysBy, hs, if_neg (Option.some_ne_none s).symm]
  | retry underway => rfl
  | history generation selection result => rfl
  | tick tick => rfl
  | timer underway => rfl

/-- Until a symbol is selected there is no overlay, and afterwards it is that of the inputs since
the switch to the symbol. -/
theorem overlay_run {last : Engine} {inputs : List Input} {orders : List Order}
    (h : initial.run inputs = (.ok last, orders)) :
    (selectedIn inputs = none → (Display.blank.afterAll (calls orders)).overlay = none) ∧
      ∀ symbol, selectedIn inputs = some symbol → ∃ since, SinceSwitch inputs symbol since ∧
        (Display.blank.afterAll (calls orders)).overlay = some (overlayFor symbol since) := by
  induction inputs using List.reverseRecOn generalizing last orders with
  | nil =>
    cases h
    exact ⟨fun _ => rfl, fun symbol hs => nomatch hs⟩
  | append_singleton inputs input ih =>
    obtain ⟨next, first, more, hrun, hstep, rfl⟩ := run_concat_ok h
    obtain ⟨hnone, hsome⟩ := ih hrun
    have hselected := symbol?_run hrun
    have hshown := overlay_handle (Display.blank.afterAll (calls first)) next input
    rw [hstep, ← Display.afterAll_append, ← calls_append] at hshown
    rw [hshown, selectedIn_concat]
    by_cases hkept : ∀ s, input.symbol? = some s → selectedIn inputs = some s
    · -- The symbol stays what it was, and so does what is selected.
      have hsame : input.symbol?.or (selectedIn inputs) = selectedIn inputs := by
        cases hi : input.symbol? with
        | none => rfl
        | some s => exact (hkept s hi).symm
      rw [hsame]
      refine ⟨fun hs => ?_, fun symbol hs => ?_⟩
      · have hi : input.symbol? = none := by
          cases hi : input.symbol? with
          | none => rfl
          | some s => exact absurd (hs.symm.trans (hkept s hi)) (Option.some_ne_none s).symm
        rw [overlaysBy_of_none (hselected.trans hs) hi, hnone hs]
        rfl
      · obtain ⟨since, hsince, hoverlay⟩ := hsome symbol hs
        have hi : ∀ s, input.symbol? = some s → s = symbol := fun s hi =>
          Option.some.inj ((hkept s hi).symm.trans hs)
        refine ⟨since ++ [input], hsince.concat hi, ?_⟩
        rw [hoverlay, overlaysBy_of_kept (hselected.trans hs) hi]
    · -- The input switches to another symbol: nothing that came before it counts any more.
      obtain ⟨s, hi, hne⟩ : ∃ s, input.symbol? = some s ∧ selectedIn inputs ≠ some s := by
        simpa using hkept
      cases input with
      | select selection underway =>
        obtain rfl := Option.some.inj hi
        refine ⟨fun hs => absurd hs (Option.some_ne_none _), fun symbol hs => ?_⟩
        obtain rfl := Option.some.inj hs
        refine ⟨[], sinceSwitch_nil underway hne, ?_⟩
        rw [overlaysBy, if_neg (hselected ▸ hne)]
        rfl
      | _ => cases hi

/-- An input of which the overlay of the selected symbol takes no notice: a poll that failed or was
for another symbol, and whatever selects no other symbol. -/
def Input.SparesOverlay (selected : Option Symbol) : Input → Prop
  | .select selection _ => selected = some selection.symbol
  | .indicators symbol (.ok _) => selected ≠ some symbol
  | .indicators _ (.error _) | .retry _ | .history _ _ _ | .tick _ | .timer _ => True

theorem overlaysBy_of_spares {input : Input} (h : input.SparesOverlay e.symbol?) :
    e.overlaysBy input = [] := by
  cases input with
  | select selection underway => exact if_pos h
  | indicators symbol result =>
    cases result with
    | error error => rfl
    | ok points => exact if_neg h
  | retry underway => rfl
  | history generation selection result => rfl
  | tick tick => rfl
  | timer underway => rfl

/-- **The overlay is that of the selected symbol.** After every run, if a symbol is selected, the
display has an overlay of it: that of the last poll of this symbol that succeeded since the symbol
was switched to, or an empty one if there was none. A poll that failed or was for another symbol
does not change it, and neither does another timeframe, or to want the selection anew. -/
theorem overlay_of_selected_symbol (inputs : List Input) (e : Engine) (orders : List Order)
    (h : initial.run inputs = (.ok e, orders)) :
    (e.selection = none → (Display.blank.afterAll (calls orders)).overlay = none) ∧
      (∀ selection, e.selection = some selection → ∃ overlay since,
        (Display.blank.afterAll (calls orders)).overlay = some overlay ∧
          overlay.symbol = selection.symbol ∧ SinceSwitch inputs selection.symbol since ∧
          overlay = overlayFor selection.symbol since) ∧
      ∀ input, input.SparesOverlay e.symbol? → ∀ d : Display,
        (d.afterAll (calls (e.handle input).2)).overlay = d.overlay := by
  obtain ⟨hnone, hsome⟩ := overlay_run h
  have hselected := symbol?_run h
  refine ⟨fun hs => hnone ?_, fun selection hs => ?_, fun input hspares d => ?_⟩
  · rw [← hselected, symbol?, hs]
    rfl
  · have hsymbol : selectedIn inputs = some selection.symbol := by
      rw [← hselected, symbol?, hs]
      rfl
    obtain ⟨since, hsince, hoverlay⟩ := hsome selection.symbol hsymbol
    exact ⟨_, since, hoverlay, symbol_overlayFor selection.symbol since, hsince, rfl⟩
  · rw [overlay_handle, overlaysBy_of_spares hspares]
    rfl

/-- A switch to another symbol and back. What was polled for each symbol comes late, and then there
are another timeframe, a poll that fails, and the wish to see all of it anew. -/
def thereAndBack : List Input :=
  [.select Aggregator.byMinute false, .select ⟨⟨"ETH-USD"⟩, .m1⟩ true,
    .indicators ⟨"BTC-USD"⟩ (.ok []), .select Aggregator.byMinute true,
    .indicators ⟨"BTC-USD"⟩ (.ok [⟨60, [("rsi", ⟨0⟩)]⟩]), .indicators ⟨"ETH-USD"⟩ (.ok []),
    .select ⟨⟨"BTC-USD"⟩, .m5⟩ false, .indicators ⟨"BTC-USD"⟩ (.error (.status 503)), .retry false]

theorem overlay_thereAndBack : ∃ e orders, initial.run thereAndBack = (.ok e, orders) ∧
    ∃ overlay since, (Display.blank.afterAll (calls orders)).overlay = some overlay ∧
      overlay.symbol = ⟨"BTC-USD"⟩ ∧ SinceSwitch thereAndBack ⟨"BTC-USD"⟩ since ∧
      overlay = overlayFor ⟨"BTC-USD"⟩ since := by
  refine ⟨_, _, rfl, ?_⟩
  exact (overlay_of_selected_symbol thereAndBack _ _ rfl).2.1 ⟨⟨"BTC-USD"⟩, .m5⟩ rfl

end Engine

end TickChart
