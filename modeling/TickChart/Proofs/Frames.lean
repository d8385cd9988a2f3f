import TickChart.Chart.Pipeline
import TickChart.Proofs.Aggregator
import TickChart.Proofs.Rows
import TickChart.Proofs.Timeline
import TickChart.Proofs.Trades

/-!
# Runs over frames

What the frames of a subscription do to a session, from their text on. Prices are checked where the
text is read, sizes are not: neither their sign nor how they add up.

* `Pipeline.tickOf?`, `Pipeline.ticksOf`: the ticks that frames bring. `tickOf?_sound`: what was
  checked of them.
* `Pipeline.run`: the session after frames.
* `run_aggregator`: frames run as their ticks do in an aggregator.
* `run_error_iff`: when frames break a session.
* `KeptBy`, `run_holds`: what each tick keeps of a candle holds of all candles.
* `Displayed`, `run_displayed`: what is known of the candles of the series.
-/

namespace TickChart

namespace Pipeline

/-! ## Ticks -/

/-- The tick that a frame brings, if it brings one. -/
def tickOf? (symbol : Symbol) (a : Arrival) : Option Tick :=
  match FeedMessage.ofText? a.frame symbol.product symbol a.received with
  | .ok (.tick t) => some t
  | _ => none

/-- The ticks that frames bring, in their order. -/
def ticksOf (symbol : Symbol) (arrivals : List Arrival) : List Tick :=
  arrivals.filterMap (tickOf? symbol)

variable {symbol : Symbol} {a : Arrival} {arrivals : List Arrival} {t : Tick}

theorem ticksOf_cons_of_none (h : tickOf? symbol a = none) :
    ticksOf symbol (a :: arrivals) = ticksOf symbol arrivals :=
  List.filterMap_cons_none h

theorem ticksOf_cons_of_some (h : tickOf? symbol a = some t) :
    ticksOf symbol (a :: arrivals) = t :: ticksOf symbol arrivals :=
  List.filterMap_cons_some h

/-- The session after frames, from the first to the last, and what each of them came to. -/
def run (p : Pipeline) : List Arrival → Except Fault (Pipeline × List FrameResult)
  | [] => .ok (p, [])
  | a :: arrivals => do
    let (next, result) ← p.step a
    let (last, results) ← next.run arrivals
    .ok (last, result :: results)

variable {p q : Pipeline}

/-- The tick of a frame is of the session's symbol, and its price is positive. -/
theorem tickOf?_sound (h : tickOf? symbol a = some t) :
    t.symbol = symbol ∧ Decimal.zero < t.price := by
  simp only [tickOf?] at h
  split at h
  · next hmessage =>
    cases h
    obtain ⟨ms, -, htrades, hcarries⟩ := FeedMessage.ofText?_eq_tick_iff.mp hmessage
    exact ⟨hcarries.symbol_eq, htrades.zero_lt_price hcarries⟩
  · cases h

/-! ## Steps -/

/-- A frame that brings no tick does nothing. -/
theorem step_of_none (h : tickOf? p.aggregator.symbol a = none) :
    ∃ result, p.step a = .ok (p, result) := by
  simp only [step]
  simp only [tickOf?] at h
  split at h
  · cases h
  · next hnone =>
    split
    · next t ht => exact (hnone t ht).elim
    · exact ⟨_, rfl⟩
    · exact ⟨_, rfl⟩
    · exact ⟨_, rfl⟩

theorem step_of_some (h : tickOf? p.aggregator.symbol a = some t) :
    p.step a = p.onTick t := by
  simp only [tickOf?] at h
  split at h
  · next ht =>
    cases h
    simp only [step, ht]
  · cases h

/-- What a tick does, when its sum is not too large: the aggregator takes it up, and the series
follows what came of it. -/
theorem onTick_of_ok {aggregator : Aggregator} {event : Option CandleEvent}
    (h : p.aggregator.apply t = .ok (aggregator, event)) :
    ∃ result, p.onTick t = .ok ({ p with
      aggregator
      timeline := p.timeline.afterEvent p.timeline.generation event }, result) := by
  simp only [onTick, h, bind, Except.bind, Timeline.afterEvent, Timeline.after]
  cases event with
  | none => exact ⟨_, rfl⟩
  | some event =>
    cases hfollow : p.timeline.follow p.timeline.generation event with
    | ok grown => exact ⟨.changed grown.2, by simp only [hfollow]⟩
    | error refusal => exact ⟨.refused refusal, by simp only [hfollow]⟩

theorem onTick_of_error {fault : Fault} (h : p.aggregator.apply t = .error fault) :
    p.onTick t = .error fault := by
  simp only [onTick, h]
  rfl

theorem run_cons_of_ok {result : FrameResult} (h : p.step a = .ok (q, result))
    (arrivals : List Arrival) :
    p.run (a :: arrivals) = (q.run arrivals).map fun done => (done.1, result :: done.2) := by
  simp only [run, h, bind, Except.bind]
  cases q.run arrivals <;> rfl

theorem run_cons_of_error {fault : Fault} (h : p.step a = .error fault)
    (arrivals : List Arrival) : p.run (a :: arrivals) = .error fault := by
  simp only [run, h]
  rfl

/-! ## Faults -/

/-- Frames run as their ticks do. -/
theorem run_aggregator (p : Pipeline) (arrivals : List Arrival) :
    (p.run arrivals).map (·.1.aggregator) =
      (p.aggregator.run (ticksOf p.aggregator.symbol arrivals)).map Prod.fst := by
  induction arrivals generalizing p with
  | nil => rfl
  | cons a arrivals ih =>
    have hrest {q : Pipeline} {result : FrameResult} (hstep : p.step a = .ok (q, result)) :
        (p.run (a :: arrivals)).map (·.1.aggregator) =
          (q.aggregator.run (ticksOf q.aggregator.symbol arrivals)).map Prod.fst := by
      rw [run_cons_of_ok hstep, ← ih q]
      cases q.run arrivals <;> rfl
    cases ht : tickOf? p.aggregator.symbol a with
    | none =>
      obtain ⟨result, hstep⟩ := step_of_none ht
      rw [hrest hstep, ticksOf_cons_of_none ht]
    | some t =>
      rw [ticksOf_cons_of_some ht, Aggregator.run]
      cases happly : p.aggregator.apply t with
      | error fault =>
        rw [run_cons_of_error ((step_of_some ht).trans (onTick_of_error happly))]
        rfl
      | ok answer =>
        obtain ⟨aggregator, event⟩ := answer
        obtain ⟨result, hdone⟩ := onTick_of_ok happly
        rw [hrest ((step_of_some ht).trans hdone)]
        simp only [(Aggregator.frame_of_apply happly).1]
        cases aggregator.run (ticksOf p.aggregator.symbol arrivals) <;> rfl

theorem seeded_eq (symbol : Symbol) (timeframe : Timeframe) (answer : Option Json.Value) :
    seeded symbol timeframe answer =
      { initial symbol timeframe with
        timeline := ⟨Timeline.initial.begin.generation,
          Series.ofCandles (Series.ofRows timeframe (historyRows answer))⟩ } := by
  simp only [seeded, initial, Timeline.reset, ↓reduceIte]

/-- **When frames break a session.** Whatever history a session begins with, and whatever frames it
receives at whatever moments, the only fault is a sum that is too large; and there is one exactly if
some accepted tick brings the volume of its bucket to half a unit below the first number of more
than 96 bits, or beyond, on either side of zero. -/
theorem run_error_iff (symbol : Symbol) (timeframe : Timeframe) (answer : Option Json.Value)
    (arrivals : List Arrival) (fault : Fault) :
    (seeded symbol timeframe answer).run arrivals = .error fault ↔
      fault = .sumTooLarge ∧ ∃ before t after volume,
        ticksOf symbol arrivals = before ++ t :: after ∧
        t.Accepted ⟨symbol, timeframe⟩ before ∧
        Decimal.total?
            ((acceptedIn ⟨symbol, timeframe⟩ (t.bucket timeframe) before).map Tick.size) =
          some volume ∧
        (coeffLimit : Rat) - 1 / 2 ≤ |volume.toRat + t.size.toRat| := by
  have hrun : ((seeded symbol timeframe answer).run arrivals).map (·.1.aggregator) =
      ((Aggregator.reference ⟨symbol, timeframe⟩ []).run (ticksOf symbol arrivals)).map
        Prod.fst := by
    rw [run_aggregator, seeded_eq]
    rfl
  rw [Aggregator.run_reference volumesFit_nil, List.nil_append] at hrun
  rw [← not_volumesFit_iff]
  cases hdone : (seeded symbol timeframe answer).run arrivals with
  | ok done =>
    rw [hdone] at hrun
    split at hrun
    · next hfit => simp [hfit]
    · cases hrun
  | error broken =>
    rw [hdone] at hrun
    split at hrun
    · cases hrun
    · next hfit =>
      obtain rfl := Except.error.inj hrun
      simp [hfit, eq_comm]

/-- A session without a history. -/
def blank : Pipeline := seeded Aggregator.byMinute.symbol Aggregator.byMinute.timeframe none

/-- The frame of a purchase for the price of one, without a time of its own. -/
def tradeFrame (size : String) : String :=
  "\x7b\"type\":\"ticker\",\"price\":\"1\",\"last_size\":\"" ++ size ++ "\",\"side\":\"buy\"\x7d"

/-- The frame of a purchase, received at the beginning of 1970. -/
def tradeArrival (size : String) : Arrival := ⟨tradeFrame size, default⟩

/-- The greatest decimal and one more, in one bucket. -/
theorem run_largest_and_one :
    blank.run [tradeArrival "79228162514264337593543950335", tradeArrival "1"] =
      .error .sumTooLarge := by
  decide +kernel

/-! ## Valid candles -/

/-- A property of candles that every candle has of its opening tick `t`, and that a candle keeps
when it takes up `t`. -/
structure KeptBy (P : Candle → Prop) (f : Timeframe) (t : Tick) : Prop where
  opened : P (.openAt (t.bucket f) t.price t.size)
  absorbed : ∀ c grown, t.bucket f = c.bucketStart → P c →
    c.absorb t.price t.size = .ok grown → P grown

/-- All candles of the session have the property: those of the series and the open one. -/
structure Holds (P : Candle → Prop) (p : Pipeline) : Prop where
  series : ∀ c ∈ p.timeline.series, P c
  current : ∀ c, p.aggregator.current = some c → P c

variable {P : Candle → Prop}

/-- The candle that comes of a tick has what ticks keep, and so has the open one afterwards. -/
theorem apply_holds {a b : Aggregator} {event : Option CandleEvent}
    (ha : ∀ c, a.current = some c → P c) (hkept : KeptBy P a.timeframe t)
    (h : a.apply t = .ok (b, event)) :
    (∀ c, b.current = some c → P c) ∧ ∀ e, event = some e → P e.candle := by
  obtain ⟨rfl, rfl⟩ | ⟨rfl, rfl⟩ | ⟨c, grown, hc, hb, habsorb, rfl, rfl⟩ := Aggregator.apply_ok h
  · exact ⟨ha, fun e he => nomatch he⟩
  · refine ⟨fun c hc => ?_, fun e he => ?_⟩
    · cases hc; exact hkept.opened
    · cases he; exact hkept.opened
  · have hgrown := hkept.absorbed c grown hb (ha c hc) habsorb
    refine ⟨fun c hc => ?_, fun e he => ?_⟩
    · cases hc; exact hgrown
    · cases he; exact hgrown

/-- The candles of a series after an event were there before, or are that of the event. -/
theorem mem_afterEvent {timeline : Timeline} {g : Generation} {event : Option CandleEvent}
    {c : Candle} (h : c ∈ (timeline.afterEvent g event).series) :
    c ∈ timeline.series ∨ ∃ e, event = some e ∧ c = e.candle := by
  cases event with
  | none => exact .inl h
  | some event =>
    simp only [Timeline.afterEvent, Timeline.after] at h
    split at h
    · next grown change hfollow =>
      obtain ⟨-, -, ⟨-, -, rfl⟩ | ⟨-, front, old, hs, -, rfl⟩⟩ := Timeline.follow_ok hfollow
      · rcases List.mem_append.mp h with h | h
        · exact .inl h
        · exact .inr ⟨event, rfl, List.mem_singleton.mp h⟩
      · rcases List.mem_append.mp h with h | h
        · exact .inl (hs ▸ List.mem_append_left _ h)
        · exact .inr ⟨event, rfl, List.mem_singleton.mp h⟩
    · exact .inl h

/-- One frame, with a tick or without one. -/
theorem step_holds {result : FrameResult} (hp : Holds P p)
    (hkept : ∀ t, tickOf? p.aggregator.symbol a = some t →
      KeptBy P p.aggregator.timeframe t) (h : p.step a = .ok (q, result)) :
    Holds P q ∧ q.aggregator.symbol = p.aggregator.symbol ∧
      q.aggregator.timeframe = p.aggregator.timeframe := by
  cases ht : tickOf? p.aggregator.symbol a with
  | none =>
    obtain ⟨_, hdone⟩ := step_of_none ht
    obtain ⟨rfl, -⟩ := Prod.mk.inj (Except.ok.inj (hdone.symm.trans h))
    exact ⟨hp, rfl, rfl⟩
  | some t =>
    rw [step_of_some ht] at h
    cases happly : p.aggregator.apply t with
    | error fault => rw [onTick_of_error happly] at h; cases h
    | ok answer =>
      obtain ⟨aggregator, event⟩ := answer
      obtain ⟨_, hdone⟩ := onTick_of_ok happly
      obtain ⟨rfl, -⟩ := Prod.mk.inj (Except.ok.inj (hdone.symm.trans h))
      obtain ⟨hcurrent, hevent⟩ := apply_holds hp.current (hkept t ht) happly
      refine ⟨⟨fun c hc => ?_, hcurrent⟩, Aggregator.frame_of_apply happly⟩
      rcases mem_afterEvent hc with hc | ⟨e, he, rfl⟩
      · exact hp.series c hc
      · exact hevent e he

/-- What the ticks of all frames keep, holds of all candles after them. -/
theorem run_holds {results : List FrameResult} (hp : Holds P p)
    (hkept : ∀ t ∈ ticksOf p.aggregator.symbol arrivals, KeptBy P p.aggregator.timeframe t)
    (h : p.run arrivals = .ok (q, results)) : Holds P q := by
  induction arrivals generalizing p results with
  | nil => cases h; exact hp
  | cons a arrivals ih =>
    obtain ⟨⟨next, result⟩, hstep, h⟩ := bind_eq_ok_iff.mp h
    obtain ⟨⟨last, rest⟩, hrun, h⟩ := bind_eq_ok_iff.mp h
    obtain ⟨rfl, -⟩ := Prod.mk.inj (Except.ok.inj h)
    obtain ⟨hnext, hsymbol, htimeframe⟩ := step_holds hp
      (fun t ht => hkept t (List.mem_filterMap.mpr ⟨a, List.mem_cons_self, ht⟩)) hstep
    refine ih hnext (fun t ht => ?_) hrun
    rw [hsymbol] at ht
    rw [htimeframe]
    obtain ⟨b, hb, ht⟩ := List.mem_filterMap.mp ht
    exact hkept t (List.mem_filterMap.mpr ⟨b, List.mem_cons_of_mem _ hb, ht⟩)

end Pipeline

namespace Candle

/-- The prices of a candle are positive and in order. -/
def WellPriced (c : Candle) : Prop :=
  Decimal.zero < c.low ∧ c.low ≤ c.openPrice ∧ c.openPrice ≤ c.high ∧ c.low ≤ c.close ∧
    c.close ≤ c.high

theorem valid_iff {c : Candle} : c.Valid ↔ c.WellPriced ∧ Decimal.zero ≤ c.volume := by
  simp only [Valid, WellPriced, and_assoc]

theorem wellPriced_openAt {bucket : Int} {price size : Decimal} (h : Decimal.zero < price) :
    (openAt bucket price size).WellPriced :=
  ⟨h, Decimal.le_refl _, Decimal.le_refl _, Decimal.le_refl _, Decimal.le_refl _⟩

theorem WellPriced.absorb {c grown : Candle} {price size : Decimal} (hc : c.WellPriced)
    (hprice : Decimal.zero < price) (h : c.absorb price size = .ok grown) : grown.WellPriced := by
  obtain ⟨volume, -, rfl⟩ := absorb_ok h
  obtain ⟨hlow, hopen, hopen', -, -⟩ := hc
  obtain ⟨hhigh, hhigh'⟩ := Decimal.le_highest c.high price
  obtain ⟨hle, hle'⟩ := Decimal.lowest_le c.low price
  refine ⟨?_, Decimal.le_trans hle hopen, Decimal.le_trans hopen' hhigh, hle', hhigh'⟩
  rcases Decimal.lowest_mem c.low price with heq | heq <;> simpa only [heq]

end Candle

namespace Pipeline

variable {symbol : Symbol} {timeframe : Timeframe} {answer : Option Json.Value} {t : Tick}

/-- What is known of a displayed candle: its prices, its bucket, and why its volume may be negative.
-/
structure Displayed (timeframe : Timeframe) (ticks : List Tick) (c : Candle) : Prop where
  prices : c.WellPriced
  aligned : (timeframe.seconds : Int) ∣ c.bucketStart
  volume : Decimal.zero ≤ c.volume ∨
    ∃ t ∈ ticks, t.bucket timeframe = c.bucketStart ∧ t.size < Decimal.zero

theorem Displayed.valid {ticks : List Tick} {c : Candle} (h : Displayed timeframe ticks c)
    (hticks : ∀ t ∈ ticks, Decimal.zero ≤ t.size) : c.Valid := by
  refine Candle.valid_iff.mpr ⟨h.prices, h.volume.resolve_right ?_⟩
  rintro ⟨t, ht, -, hneg⟩
  exact absurd (hticks t ht) (Int.not_le.mpr hneg)

/-- Each tick with a positive price keeps what is known of a displayed candle. -/
theorem keptBy_displayed {ticks : List Tick} (ht : t ∈ ticks) (hprice : Decimal.zero < t.price) :
    KeptBy (Displayed timeframe ticks) timeframe t where
  opened := by
    refine ⟨Candle.wellPriced_openAt hprice, Int.dvd_mul_left _ _, ?_⟩
    by_cases hsize : t.size < Decimal.zero
    · exact .inr ⟨t, ht, rfl, hsize⟩
    · exact .inl (Decimal.le_of_not_lt hsize)
  absorbed c grown hb hc habsorb := by
    have hprices := hc.prices.absorb hprice habsorb
    obtain ⟨volume, hvolume, rfl⟩ := Candle.absorb_ok habsorb
    refine ⟨hprices, hc.aligned, ?_⟩
    by_cases hsize : t.size < Decimal.zero
    · exact .inr ⟨t, ht, hb, hsize⟩
    · refine hc.volume.imp_left fun hold => ?_
      exact Decimal.add?_nonneg hold (Decimal.le_of_not_lt hsize) hvolume

/-- The candles of a history are valid, and their buckets aligned. -/
theorem valid_of_mem_seeded {c : Candle}
    (h : c ∈ (seeded symbol timeframe answer).timeline.series) :
    c.Valid ∧ (timeframe.seconds : Int) ∣ c.bucketStart := by
  rw [seeded_eq] at h
  obtain ⟨row, -, hrow, hvalid⟩ := Series.rowHolds_of_mem (Keyed.mem_of_mem_ofList h)
  exact ⟨hvalid, Candle.dvd_of_ofRow? hrow⟩

/-- **Displayed candles.** Whatever history a session begins with, and whatever frames it receives
at whatever moments without a fault, every candle of its series has positive prices in order and an
aligned bucket; and its volume is negative only if a frame brought a tick of its bucket with a
negative size. -/
theorem run_displayed (symbol : Symbol) (timeframe : Timeframe) (answer : Option Json.Value)
    (arrivals : List Arrival) {q : Pipeline} {results : List FrameResult}
    (h : (seeded symbol timeframe answer).run arrivals = .ok (q, results)) :
    ∀ c ∈ q.timeline.series, Displayed timeframe (ticksOf symbol arrivals) c := by
  have hseeded : Holds (Displayed timeframe (ticksOf symbol arrivals))
      (seeded symbol timeframe answer) := by
    refine ⟨fun c hc => ?_, fun c hc => ?_⟩
    · obtain ⟨hvalid, haligned⟩ := valid_of_mem_seeded hc
      obtain ⟨hprices, hvolume⟩ := Candle.valid_iff.mp hvalid
      exact ⟨hprices, haligned, .inl hvolume⟩
    · rw [seeded_eq] at hc
      cases hc
  refine (run_holds hseeded (fun t ht => ?_) h).series
  rw [seeded_eq] at ht ⊢
  obtain ⟨a, -, ha⟩ := List.mem_filterMap.mp ht
  exact keptBy_displayed ht (tickOf?_sound ha).2

theorem exists_of_isOk {ε α : Type} {x : Except ε α} (h : x.isOk) : ∃ a, x = .ok a := by
  cases x with
  | ok a => exact ⟨a, rfl⟩
  | error e => cases h

theorem run_displayed_one : ∃ q results, blank.run [tradeArrival "1"] = .ok (q, results) ∧
    ∀ c ∈ q.timeline.series,
      Displayed .m1 (ticksOf Aggregator.byMinute.symbol [tradeArrival "1"]) c := by
  obtain ⟨⟨q, results⟩, h⟩ : ∃ done, blank.run [tradeArrival "1"] = .ok done :=
    exists_of_isOk (by decide +kernel)
  exact ⟨q, results, h, run_displayed _ _ _ _ h⟩

/-- A size may be negative, and so may a volume. -/
theorem run_negative_size : ∃ q results, blank.run [tradeArrival "-1"] = .ok (q, results) ∧
    ∃ c ∈ q.timeline.series, ¬ c.Valid := by
  have hinvalid : (blank.run [tradeArrival "-1"]).toOption.any fun done =>
      done.1.timeline.series.any fun c => !c.Valid := by decide +kernel
  cases h : blank.run [tradeArrival "-1"] with
  | error fault => rw [h] at hinvalid; cases hinvalid
  | ok done =>
    rw [h] at hinvalid
    obtain ⟨c, hc, hnot⟩ := List.any_eq_true.mp hinvalid
    exact ⟨done.1, done.2, rfl, c, hc, by simpa using hnot⟩

end Pipeline

end TickChart
