import TickChart.Proofs.Run

/-!
# What an engine shows

The surface of an engine is told of changes only, and makes up its own mind whether a candle
replaces the last one or goes behind it. It shows the series of the engine nevertheless, after every
run.

* `Display.Suits`, `Display.Obeyed`: a call that a display can take; calls of which each suits the
  display that the ones before it left.
* `Display.Shows`: the display has the candles of a timeline, and they ascend.
* `Display.Told`: calls that are obeyed and after which the display shows a timeline. The calls of
  every handler are such (`told_handle`).
* `surface_contract`: all calls of a run are obeyed, and the display shows the series afterwards.
-/

namespace TickChart

namespace Display

/-- The call suits the display. A series that replaces the candles ascends; a candle is of the
bucket of the last one and takes its place, or of a later bucket than all and goes behind them. -/
def Suits (d : Display) : SurfaceCall → Prop
  | .replaceAll series => Series.Ascending series
  | .upsertLast c =>
    (Series.lastBucket? d.candles = some c.bucketStart ∧
        (d.after (.upsertLast c)).candles = d.candles.dropLast ++ [c]) ∨
      ((∀ old ∈ d.candles, old.bucketStart < c.bucketStart) ∧
        (d.after (.upsertLast c)).candles = d.candles ++ [c])
  | .loadState _ _ | .ticker _ | .overlay _ | .overlayError _ _ => True

/-- Each call suits the display that the calls before it left. -/
def Obeyed (d : Display) : List SurfaceCall → Prop
  | [] => True
  | c :: cs => d.Suits c ∧ (d.after c).Obeyed cs

/-- The display has the candles of the timeline, and they ascend. -/
structure Shows (d : Display) (t : Timeline) : Prop where
  candles : d.candles = t.series
  ascending : Series.Ascending t.series

/-- The calls are obeyed, and afterwards the display shows the timeline. -/
structure Told (d : Display) (calls : List SurfaceCall) (t : Timeline) : Prop where
  obeyed : d.Obeyed calls
  shows : (d.afterAll calls).Shows t

/-- A call that is not about candles. -/
def Plain : SurfaceCall → Prop
  | .replaceAll _ | .upsertLast _ => False
  | .loadState _ _ | .ticker _ | .overlay _ | .overlayError _ _ => True

variable {d : Display} {t t' : Timeline} {a b : List SurfaceCall}

theorem Obeyed.append (ha : d.Obeyed a) (hb : (d.afterAll a).Obeyed b) : d.Obeyed (a ++ b) := by
  induction a generalizing d with
  | nil => exact hb
  | cons c a ih => exact ⟨ha.1, ih ha.2 hb⟩

theorem Told.append (ha : d.Told a t) (hb : (d.afterAll a).Told b t') : d.Told (a ++ b) t' := by
  refine ⟨ha.obeyed.append hb.obeyed, ?_⟩
  rw [afterAll_append]
  exact hb.shows

theorem told_nil (h : d.Shows t) : d.Told [] t := ⟨trivial, h⟩

/-- Calls that are not about candles leave them as they are. -/
theorem told_plain (h : d.Shows t) (hp : ∀ c ∈ a, Plain c) : d.Told a t := by
  induction a generalizing d with
  | nil => exact told_nil h
  | cons c a ih =>
    have hc := hp c List.mem_cons_self
    have hs : d.Suits c ∧ (d.after c).Shows t := by
      cases c with
      | replaceAll series => exact hc.elim
      | upsertLast candle => exact hc.elim
      | loadState selection state => exact ⟨trivial, h.candles, h.ascending⟩
      | ticker tick => exact ⟨trivial, h.candles, h.ascending⟩
      | overlay overlay => exact ⟨trivial, h.candles, h.ascending⟩
      | overlayError symbol error => exact ⟨trivial, h.candles, h.ascending⟩
    have ht := ih hs.2 fun c' hc' => hp c' (List.mem_cons_of_mem _ hc')
    exact ⟨⟨hs.1, ht.obeyed⟩, ht.shows⟩

/-- A series that ascends may replace whatever is shown. -/
theorem told_replaceAll (d : Display) (ha : Series.Ascending t.series) :
    d.Told [.replaceAll t.series] t :=
  ⟨⟨ha, trivial⟩, rfl, ha⟩

/-- The call for a live candle does to the display what the candle did to the timeline. -/
theorem told_follow {g : Generation} {event : CandleEvent} {change : SeriesChange} (h : d.Shows t)
    (hf : t.follow g event = .ok (t', change)) : d.Told [change.call] t' := by
  have hasc := Timeline.follow_ascending hf h.ascending
  obtain ⟨-, rfl, ⟨-, hb, rfl⟩ | ⟨-, front, old, hs, hb, rfl⟩⟩ := Timeline.follow_ok hf
  · have hne : Series.lastBucket? d.candles ≠ some event.candle.bucketStart := by
      rw [h.candles]
      exact fun hl => Int.lt_irrefl _ (hb _ hl)
    have hu : (d.after (.upsertLast event.candle)).candles = d.candles ++ [event.candle] := by
      simp only [after, upsert, if_neg hne]
    refine ⟨⟨.inr ⟨?_, hu⟩, trivial⟩, by rw [← h.candles]; exact hu, hasc⟩
    rw [h.candles]
    exact (Series.ascending_concat.mp hasc).2
  · have hl : Series.lastBucket? d.candles = some event.candle.bucketStart := by
      rw [h.candles, hs, Series.lastBucket?_concat, hb]
    have hu : (d.after (.upsertLast event.candle)).candles =
        d.candles.dropLast ++ [event.candle] := by
      simp only [after, upsert, if_pos hl]
    refine ⟨⟨.inl ⟨hl, hu⟩, trivial⟩, ?_, hasc⟩
    show (d.after (.upsertLast event.candle)).candles = _
    rw [hu, h.candles, hs, List.dropLast_concat]

/-- The live candles that are opened again behind a history, whether they are accepted or not. -/
theorem told_replay (h : d.Shows t) (live : List Candle) :
    d.Told (Engine.replay t live).2 (Engine.replay t live).1 := by
  induction live generalizing d t with
  | nil => exact told_nil h
  | cons candle live ih =>
    simp only [Engine.replay]
    split
    · next grown change hf =>
      have hc := told_follow h hf
      exact hc.append (ih hc.shows)
    · exact ih h

end Display

namespace Engine

variable {d : Display} {e : Engine}

open Display

/-- A start shows the empty series of its generation. -/
theorem told_start (d : Display) (e : Engine) (selection : Selection) :
    d.Told (calls (e.start selection).2) (e.start selection).1.timeline := by
  rw [calls_start]
  have hr := told_replaceAll (t := e.timeline.begin) d Series.ascending_nil
  exact hr.append (told_plain hr.shows (by simp [Plain]))

theorem told_startPoll (h : d.Shows e.timeline) (force underway : Bool) :
    d.Told (calls (e.startPoll force underway).2) (e.startPoll force underway).1.timeline := by
  rw [calls_startPoll, (startPoll_frame e force underway).1]
  exact told_nil h

theorem told_select (d : Display) (e : Engine) (selection : Selection) (underway : Bool) :
    d.Told (calls (e.select selection underway).2) (e.select selection underway).1.timeline := by
  have hs := told_start d e selection
  simp only [select]
  split
  · exact hs
  · rw [calls_append]
    refine hs.append ?_
    have ho := told_plain (a := [.overlay (.empty selection.symbol)]) hs.shows (by simp [Plain])
    exact ho.append (told_startPoll ho.shows true underway)

theorem told_retry (h : d.Shows e.timeline) (underway : Bool) :
    d.Told (calls (e.retry underway).2) (e.retry underway).1.timeline := by
  simp only [retry]
  split
  · exact told_nil h
  · next selection _ =>
    have hs := told_start d e selection
    rw [calls_append]
    exact hs.append (told_startPoll hs.shows true underway)

theorem told_onHistory (h : d.Shows e.timeline) (generation : Generation) (selection : Selection)
    (result : HistoryResult) :
    d.Told (calls (e.onHistory generation selection result).2)
      (e.onHistory generation selection result).1.timeline := by
  by_cases hg : generation = e.timeline.generation
  · subst hg
    match result with
    | .ok (.loaded candles) =>
      obtain ⟨he, hc⟩ := onHistory_loaded e selection candles
      rw [he, hc]
      have hr := told_replaceAll (t := ⟨e.timeline.generation, Series.ofCandles candles⟩) d
        (Series.ascending_ofCandles candles)
      have hl := hr.append
        (told_plain (a := [.loadState selection .ready]) hr.shows (by simp [Plain]))
      exact hl.append
        (told_replay hl.shows (newerThan (Series.ofCandles candles) e.timeline.series))
    | .ok .noData =>
      simp only [onHistory, ne_eq, not_true_eq_false, ↓reduceIte]
      exact told_plain h (by simp [calls, Order.call?, Plain])
    | .error error =>
      simp only [onHistory, ne_eq, not_true_eq_false, ↓reduceIte]
      exact told_plain h (by simp [calls, Order.call?, Plain])
  · rw [onHistory_stale hg]
    exact told_nil h

theorem told_onTick (h : d.Shows e.timeline) (tick : Tick) :
    ∃ t, d.Told (calls (e.onTick tick).2) t ∧
      ∀ next, (e.onTick tick).1 = .ok next → next.timeline = t := by
  have ht := told_plain (a := [.ticker tick]) h (by simp [Plain])
  simp only [onTick]
  split
  · exact ⟨_, told_nil h, fun next hn => by cases hn; rfl⟩
  · split
    · simp only [followTick]
      split
      · exact ⟨_, ht, fun next hn => by cases hn; rfl⟩
      · split
        · next hf => exact ⟨_, ht.append (told_follow ht.shows hf), fun next hn => by cases hn; rfl⟩
        · exact ⟨_, ht, fun next hn => by cases hn; rfl⟩
    · exact ⟨_, ht, fun next hn => by cases hn⟩

/-- The calls of a handler are obeyed by a display of the timeline, and leave a display of the
timeline afterwards; after a fault, of the timeline before. -/
theorem told_handle (h : d.Shows e.timeline) (input : Input) :
    ∃ t, d.Told (calls (e.handle input).2) t ∧
      ∀ next, (e.handle input).1 = .ok next → next.timeline = t := by
  cases input with
  | select selection underway =>
    exact ⟨_, told_select d e selection underway, fun next hn => by cases hn; rfl⟩
  | retry underway => exact ⟨_, told_retry h underway, fun next hn => by cases hn; rfl⟩
  | history generation selection result =>
    exact ⟨_, told_onHistory h generation selection result, fun next hn => by cases hn; rfl⟩
  | tick tick => exact told_onTick h tick
  | indicators symbol result =>
    refine ⟨e.timeline, told_plain h ?_, fun next hn => by cases hn; rfl⟩
    simp only [handle, answer, onIndicators]
    split
    · split <;> simp [calls, Order.call?, Plain]
    · simp
  | timer underway => exact ⟨_, told_startPoll h false underway, fun next hn => by cases hn; rfl⟩

theorem told_run (h : d.Shows e.timeline) (inputs : List Input) :
    ∃ t, d.Told (calls (e.run inputs).2) t ∧
      ∀ last, (e.run inputs).1 = .ok last → last.timeline = t := by
  induction inputs generalizing d e with
  | nil => exact ⟨_, told_nil h, fun last hl => by cases hl; rfl⟩
  | cons input inputs ih =>
    obtain ⟨t, ht, hnext⟩ := told_handle h input
    rcases hh : e.handle input with ⟨_ | next, orders⟩
    · rw [hh] at ht
      rw [run_cons_of_error hh]
      exact ⟨t, ht, fun last hl => by cases hl⟩
    · rw [hh] at ht hnext
      obtain rfl := hnext next rfl
      obtain ⟨t', ht', hlast⟩ := ih ht.shows
      rw [run_cons_of_ok hh, calls_append]
      exact ⟨t', ht.append ht', hlast⟩

/-- **The contract with the surface.** In every run, each call suits the display that the calls
before it left. Afterwards the candles of the display ascend, and unless a fault ended the run they
are the series of the engine. -/
theorem surface_contract (inputs : List Input) :
    Display.blank.Obeyed (calls (initial.run inputs).2) ∧
      Series.Ascending (Display.blank.afterAll (calls (initial.run inputs).2)).candles ∧
      ∀ e, (initial.run inputs).1 = .ok e →
        (Display.blank.afterAll (calls (initial.run inputs).2)).candles = e.timeline.series := by
  have h : Display.blank.Shows initial.timeline := ⟨rfl, Series.ascending_nil⟩
  obtain ⟨t, ht, hlast⟩ := told_run h inputs
  refine ⟨ht.obeyed, ?_, fun e he => ?_⟩
  · rw [ht.shows.candles]
    exact ht.shows.ascending
  · rw [hlast e he]
    exact ht.shows.candles

end Engine

end TickChart
