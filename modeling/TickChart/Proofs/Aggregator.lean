import TickChart.Market.Aggregator
import TickChart.Proofs.LiveCandle

/-!
# Aggregators

An aggregator remembers two candles and nothing of the ticks. Whatever ticks come, and in whatever
order, these are the last two live candles.

* `Aggregator.run`: the aggregator after ticks, and its answer to each of them.
* `reference`, `answer`: the aggregator and its answer, read off the ticks.
* `apply_reference`: one tick leads from the reference to the reference, unless a volume is too
  large.
* `run_reference`: so do all of them.
* `Answers`: a tick is ignored unless it is accepted, and opens its bucket if it is the first one.
  `Reports`: a run answers all its ticks so, and holds the last two candles in the end.
  `run_reports` proves it of every run.
-/

namespace TickChart.Aggregator

/-- The aggregator after ticks, from the first to the last, and what each of them did. -/
def run (a : Aggregator) : List Tick → Except Fault (Aggregator × List (Option CandleEvent))
  | [] => .ok (a, [])
  | t :: ticks =>
    match a.apply t with
    | .ok (next, event) =>
      match next.run ticks with
      | .ok (last, events) => .ok (last, event :: events)
      | .error fault => .error fault
    | .error fault => .error fault

/-- All that a tick can do: nothing, open its bucket, or update the open one. -/
theorem apply_ok {a b : Aggregator} {event : Option CandleEvent} {t : Tick}
    (h : a.apply t = .ok (b, event)) :
    (event = none ∧ b = a) ∨
      (event = some (.opened (.openAt (a.bucketOf t) t.price t.size)) ∧ b = (a.openBucket t).1) ∨
      ∃ c grown, a.current = some c ∧ a.bucketOf t = c.bucketStart ∧
        c.absorb t.price t.size = .ok grown ∧ event = some (.updated grown) ∧
        b = { a with current := some grown } := by
  simp only [apply] at h
  split at h
  · cases h; exact .inl ⟨rfl, rfl⟩
  · split at h
    · cases h; exact .inr (.inl ⟨rfl, rfl⟩)
    · next c hc =>
      split at h
      · cases h; exact .inl ⟨rfl, rfl⟩
      · split at h
        · next hb =>
          cases habsorb : c.absorb t.price t.size with
          | error fault => rw [habsorb] at h; cases h
          | ok grown =>
            rw [habsorb] at h
            cases h
            exact .inr (.inr ⟨c, grown, hc, hb, habsorb, rfl, rfl⟩)
        · cases h; exact .inr (.inl ⟨rfl, rfl⟩)

/-- A tick changes neither the symbol nor the timeframe. -/
theorem frame_of_apply {a b : Aggregator} {event : Option CandleEvent} {t : Tick}
    (h : a.apply t = .ok (b, event)) : b.symbol = a.symbol ∧ b.timeframe = a.timeframe := by
  obtain ⟨-, rfl⟩ | ⟨-, rfl⟩ | ⟨-, -, -, -, -, -, rfl⟩ := apply_ok h <;> exact ⟨rfl, rfl⟩

theorem run_concat {a b c : Aggregator} {events : List (Option CandleEvent)}
    {event : Option CandleEvent} {ticks : List Tick} {t : Tick} (h : a.run ticks = .ok (b, events))
    (ht : b.apply t = .ok (c, event)) : a.run (ticks ++ [t]) = .ok (c, events ++ [event]) := by
  induction ticks generalizing a events with
  | nil =>
    cases h
    simp only [List.nil_append, run, ht]
  | cons u ticks ih =>
    simp only [run, List.cons_append] at h ⊢
    split at h
    · next next first hnext =>
      split at h
      · next last rest hrun =>
        cases h
        simp only [ih hrun, List.cons_append]
      · cases h
    · cases h

/-- The aggregator that holds the last two live candles. -/
def reference (s : Selection) (ticks : List Tick) : Aggregator :=
  ⟨s.symbol, s.timeframe, (liveCandles s ticks).getLast?, (liveCandles s ticks).dropLast.getLast?⟩

/-- What a tick does after `earlier`: if it is accepted, it opens its bucket or updates it, with the
candle of its bucket. -/
def answer (s : Selection) (earlier : List Tick) (t : Tick) : Option CandleEvent :=
  if t.Accepted s earlier then
    (candleAt? s (earlier ++ [t]) (t.bucket s.timeframe)).map
      (if acceptedIn s (t.bucket s.timeframe) earlier = [] then .opened else .updated)
  else none

/-- What each of the ticks does after `earlier`. -/
def answers (s : Selection) (earlier : List Tick) : List Tick → List (Option CandleEvent)
  | [] => []
  | t :: ticks => answer s earlier t :: answers s (earlier ++ [t]) ticks

variable {s : Selection} {earlier before ticks after : List Tick} {t : Tick}

/-! ## Steps -/

/-- A tick that is not accepted does nothing. -/
theorem apply_reference_of_not (hfit : VolumesFit s ticks) (h : ¬ t.Accepted s ticks) :
    (reference s ticks).apply t = .ok (reference s ticks, none) := by
  by_cases hs : t.symbol = s.symbol
  · rw [hfit.accepted_iff, not_and, not_forall] at h
    obtain ⟨b, hb⟩ := h hs
    obtain ⟨hlast, hlt⟩ := Classical.not_imp.mp hb
    obtain ⟨c, hc, rfl⟩ := Option.map_eq_some_iff.mp hlast
    exact apply_of_late hc (Int.not_le.mp hlt)
  · exact apply_of_symbol_ne hs

/-- The first accepted tick of its bucket opens it. -/
theorem apply_reference_first (h : t.Accepted s ticks)
    (hf : acceptedIn s (t.bucket s.timeframe) ticks = []) :
    (reference s ticks).apply t =
      .ok (reference s (ticks ++ [t]),
        some (.opened (.openAt (t.bucket s.timeframe) t.price t.size))) := by
  obtain ⟨hlt, -, hlive⟩ := liveCandles_first h hf
  have hopen : (reference s ticks).openBucket t =
      (reference s (ticks ++ [t]),
        some (.opened (.openAt (t.bucket s.timeframe) t.price t.size))) := by
    rcases (liveCandles s ticks).eq_nil_or_concat with hnil | ⟨front, last, hfront⟩
    · simp [reference, openBucket, bucketOf, Tick.bucket, hlive, hnil]
    · simp [reference, openBucket, bucketOf, Tick.bucket, hlive, hfront]
  rw [← hopen]
  cases hc : (liveCandles s ticks).getLast? with
  | none => exact apply_of_current_none h.1 hc
  | some c => exact apply_of_later h.1 hc (hlt c (List.mem_of_getLast? hc))

/-- Another accepted tick of its bucket updates it, unless the volume is too large. -/
theorem apply_reference_again (hfit : VolumesFit s ticks) (h : t.Accepted s ticks)
    (ha : acceptedIn s (t.bucket s.timeframe) ticks ≠ []) :
    (reference s ticks).apply t =
      match candleAt? s (ticks ++ [t]) (t.bucket s.timeframe) with
      | some grown => .ok (reference s (ticks ++ [t]), some (.updated grown))
      | none => .error .sumTooLarge := by
  obtain ⟨front, old, hlive, hb, habsorb, hgrown⟩ := liveCandles_again hfit h ha
  have hc : (reference s ticks).current = some old := by simp [reference, hlive]
  rw [apply_of_same h.1 hc hb.symm, habsorb]
  cases hcandle : candleAt? s (ticks ++ [t]) (t.bucket s.timeframe) with
  | none => rfl
  | some grown => simp [reference, hlive, hgrown grown hcandle, Except.map]

/-- One tick leads from the reference to the reference, unless a volume is too large. -/
theorem apply_reference (hfit : VolumesFit s ticks) :
    (reference s ticks).apply t =
      if VolumesFit s (ticks ++ [t]) then .ok (reference s (ticks ++ [t]), answer s ticks t)
      else .error .sumTooLarge := by
  by_cases h : t.Accepted s ticks
  · simp only [hfit.concat_iff h, answer, if_pos h]
    by_cases hf : acceptedIn s (t.bucket s.timeframe) ticks = []
    · rw [apply_reference_first h hf, (liveCandles_first h hf).2.1, if_pos hf]
      rfl
    · rw [apply_reference_again hfit h hf, if_neg hf]
      cases candleAt? s (ticks ++ [t]) (t.bucket s.timeframe) <;> rfl
  · have hsame : reference s (ticks ++ [t]) = reference s ticks := by
      rw [reference, liveCandles_of_not h, reference]
    rw [apply_reference_of_not hfit h, if_pos (hfit.concat_of_not h), hsame, answer, if_neg h]

/-- The tick `t` opens its bucket after `ticks`, with the candle `c` behind the live ones. -/
structure Opens (s : Selection) (ticks : List Tick) (t : Tick) (c : Candle) : Prop where
  bucket_eq : c.bucketStart = t.bucket s.timeframe
  first : acceptedIn s (t.bucket s.timeframe) ticks = []
  later : ∀ d ∈ liveCandles s ticks, d.bucketStart < c.bucketStart
  live : liveCandles s (ticks ++ [t]) = liveCandles s ticks ++ [c]

/-- The tick `t` updates its bucket after `ticks`, and `c` takes the place of `old`, the last of the
live candles. -/
structure Updates (s : Selection) (ticks : List Tick) (t : Tick) (front : List Candle)
    (old c : Candle) : Prop where
  accepted : t.Accepted s ticks
  bucket_eq : c.bucketStart = t.bucket s.timeframe
  again : acceptedIn s (t.bucket s.timeframe) ticks ≠ []
  candle : candleAt? s (ticks ++ [t]) (t.bucket s.timeframe) = some c
  before : liveCandles s ticks = front ++ [old]
  old_eq : old.bucketStart = c.bucketStart
  live : liveCandles s (ticks ++ [t]) = front ++ [c]

/-- All that a tick can be answered, with what it does to the live candles. -/
theorem answer_cases (hfit : VolumesFit s (ticks ++ [t])) :
    (answer s ticks t = none ∧ ¬ t.Accepted s ticks) ∨
      (∃ c, answer s ticks t = some (.opened c) ∧ Opens s ticks t c) ∨
      ∃ front old c, answer s ticks t = some (.updated c) ∧ Updates s ticks t front old c := by
  by_cases h : t.Accepted s ticks
  · by_cases hf : acceptedIn s (t.bucket s.timeframe) ticks = []
    · obtain ⟨hlt, hcandle, hlive⟩ := liveCandles_first h hf
      refine .inr (.inl ⟨_, ?_, rfl, hf, hlt, hlive⟩)
      rw [answer, if_pos h, hcandle, if_pos hf, Option.map_some]
    · obtain ⟨c, hc⟩ := Option.isSome_iff_exists.mp ((hfit.before.concat_iff h).mp hfit)
      obtain ⟨front, old, hlive, hold, -, hgrown⟩ := liveCandles_again hfit.before h hf
      have hb := bucketStart_of_candleAt? hc
      refine .inr (.inr ⟨front, old, c, ?_, h, hb, hf, hc, hlive, hold.trans hb.symm, hgrown c hc⟩)
      rw [answer, if_pos h, hc, if_neg hf, Option.map_some]
  · exact .inl ⟨by rw [answer, if_neg h], h⟩

/-! ## Runs -/

/-- An aggregator runs from the reference to the reference, unless a volume is too large. -/
theorem run_reference (hfit : VolumesFit s earlier) :
    (reference s earlier).run ticks =
      if VolumesFit s (earlier ++ ticks) then
        .ok (reference s (earlier ++ ticks), answers s earlier ticks)
      else .error .sumTooLarge := by
  induction ticks generalizing earlier with
  | nil => rw [List.append_nil, if_pos hfit]; rfl
  | cons t ticks ih =>
    have hsplit : earlier ++ t :: ticks = (earlier ++ [t]) ++ ticks := by simp
    rw [run, apply_reference hfit, hsplit]
    by_cases hnext : VolumesFit s (earlier ++ [t])
    · simp only [if_pos hnext, ih hnext]
      by_cases hall : VolumesFit s ((earlier ++ [t]) ++ ticks)
      · simp only [if_pos hall]; rfl
      · simp only [if_neg hall]
    · rw [if_neg hnext, if_neg fun hall => hnext hall.before]

/-! ## Answers -/

/-- The answer to a tick that comes after `earlier`: nothing unless the tick is accepted, an opened
candle if it is the first one of its bucket, and else an updated one; with the candle that the
accepted ticks of the bucket make up. -/
structure Answers (s : Selection) (earlier : List Tick) (t : Tick) (event : Option CandleEvent) :
    Prop where
  none_iff : event = none ↔ ¬ t.Accepted s earlier
  opened_iff : (∃ c, event = some (.opened c)) ↔
    t.Accepted s earlier ∧ acceptedIn s (t.bucket s.timeframe) earlier = []
  updated_iff : (∃ c, event = some (.updated c)) ↔
    t.Accepted s earlier ∧ acceptedIn s (t.bucket s.timeframe) earlier ≠ []
  aggregates : ∀ e, event = some e → e.candle.Aggregates (t.bucket s.timeframe)
    (acceptedIn s (t.bucket s.timeframe) (earlier ++ [t]))

theorem answers_answer (hfit : VolumesFit s (earlier ++ [t])) :
    Answers s earlier t (answer s earlier t) := by
  by_cases h : t.Accepted s earlier
  · obtain ⟨c, hc⟩ := Option.isSome_iff_exists.mp ((hfit.before.concat_iff h).mp hfit)
    have hagg := Candle.aggregates_of_ofTicks? hc
    by_cases hf : acceptedIn s (t.bucket s.timeframe) earlier = []
    · rw [answer, if_pos h, hc, if_pos hf, Option.map_some]
      exact ⟨by simp [h], by simp [h, hf], by simp [hf], fun e he => by cases he; exact hagg⟩
    · rw [answer, if_pos h, hc, if_neg hf, Option.map_some]
      exact ⟨by simp [h], by simp [hf], by simp [h, hf], fun e he => by cases he; exact hagg⟩
  · rw [answer, if_neg h]
    exact ⟨by simp [h], by simp [h], by simp [h], fun e he => by cases he⟩

@[simp] theorem length_answers : (answers s earlier ticks).length = ticks.length := by
  induction ticks generalizing earlier with
  | nil => rfl
  | cons t ticks ih => rw [answers, List.length_cons, ih, List.length_cons]

theorem answers_append :
    answers s earlier (before ++ after) =
      answers s earlier before ++ answers s (earlier ++ before) after := by
  induction before generalizing earlier with
  | nil => simp [answers]
  | cons t before ih => simp [answers, ih]

theorem exists_of_mem_answers {event : Option CandleEvent} (h : event ∈ answers s earlier ticks) :
    ∃ before t after, ticks = before ++ t :: after ∧ event = answer s (earlier ++ before) t := by
  induction ticks generalizing earlier with
  | nil => cases h
  | cons t ticks ih =>
    rcases List.mem_cons.mp h with h | h
    · exact ⟨[], t, ticks, rfl, by rw [h, List.append_nil]⟩
    · obtain ⟨before, u, after, rfl, he⟩ := ih h
      exact ⟨t :: before, u, after, rfl, by rw [he, List.append_assoc]; rfl⟩

/-- The buckets that were opened, in their order. -/
def openedBuckets (events : List (Option CandleEvent)) : List Int :=
  events.filterMap fun event =>
    match event with
    | some (.opened c) => some c.bucketStart
    | _ => none

/-- The opened buckets are those that the ticks added to the live ones. -/
theorem liveBuckets_append (hfit : VolumesFit s (earlier ++ ticks)) :
    liveBuckets s (earlier ++ ticks) =
      liveBuckets s earlier ++ openedBuckets (answers s earlier ticks) := by
  induction ticks generalizing earlier with
  | nil => simp [answers, openedBuckets]
  | cons t ticks ih =>
    rw [show earlier ++ t :: ticks = (earlier ++ [t]) ++ ticks by simp] at hfit ⊢
    rw [ih hfit, answers]
    by_cases h : t.Accepted s earlier
    · obtain ⟨c, hc⟩ :=
        Option.isSome_iff_exists.mp ((hfit.before.before.concat_iff h).mp hfit.before)
      by_cases hf : acceptedIn s (t.bucket s.timeframe) earlier = []
      · rw [(liveBuckets_first h hf).2, answer, if_pos h, hc, if_pos hf]
        simp [openedBuckets, bucketStart_of_candleAt? hc]
      · obtain ⟨front, hbefore, hafter⟩ := liveBuckets_again h hf
        rw [hafter, hbefore, answer, if_pos h, hc, if_neg hf]
        simp [openedBuckets]
    · rw [liveBuckets_concat_of_not h, answer, if_neg h]
      simp [openedBuckets]

/-! ## Every run -/

/-- The candle is the one of the bucket's accepted ticks; without a bucket there is none. -/
def IsCandleOf (s : Selection) (ticks : List Tick) : Option Int → Option Candle → Prop
  | some b, some c => c.Aggregates b (acceptedIn s b ticks)
  | none, none => True
  | _, _ => False

/-- A run over ticks answers each of them, leaves the two candles as they are where it ignores one,
opens the buckets of the accepted ticks in ascending order, and holds the candles of the last two of
them in the end. -/
structure Reports (s : Selection) (ticks : List Tick) (a : Aggregator)
    (events : List (Option CandleEvent)) : Prop where
  length_eq : events.length = ticks.length
  step : ∀ before t after, ticks = before ++ t :: after → ∃ a₀ a₁ event,
    (empty s.symbol s.timeframe).run before = .ok (a₀, events.take before.length) ∧
      a₀.apply t = .ok (a₁, event) ∧ events[before.length]? = some event ∧
      Answers s before t event ∧
      (event = none → a₁.current = a₀.current ∧ a₁.lastClosed = a₀.lastClosed)
  opened_eq : openedBuckets events = liveBuckets s ticks
  opened_ascending : (openedBuckets events).Pairwise (· < ·)
  opened_aligned : ∀ b ∈ openedBuckets events, (s.timeframe.seconds : Int) ∣ b
  current : IsCandleOf s ticks (liveBuckets s ticks).getLast? a.current
  lastClosed : IsCandleOf s ticks (liveBuckets s ticks).dropLast.getLast? a.lastClosed
  valid : (∀ t ∈ ticks, Decimal.zero < t.price ∧ Decimal.zero ≤ t.size) →
    ∀ e, some e ∈ events → e.candle.Valid

theorem isCandleOf_of_mem {c? : Option Candle} (h : ∀ c, c? = some c → c ∈ liveCandles s ticks) :
    IsCandleOf s ticks (c?.map Candle.bucketStart) c? := by
  cases c? with
  | none => trivial
  | some c => exact Candle.aggregates_of_ofTicks? (mem_liveCandles.mp (h c rfl))

theorem run_empty (hfit : VolumesFit s ticks) :
    (empty s.symbol s.timeframe).run ticks = .ok (reference s ticks, answers s [] ticks) := by
  rw [show empty s.symbol s.timeframe = reference s [] from rfl, run_reference volumesFit_nil]
  exact if_pos hfit

theorem step_answers (hfit : VolumesFit s ticks) (hsplit : ticks = before ++ t :: after) :
    (reference s before).apply t = .ok (reference s (before ++ [t]), answer s before t) ∧
      Answers s before t (answer s before t) := by
  have hnext : VolumesFit s (before ++ [t]) := by
    rw [show ticks = (before ++ [t]) ++ after by simp [hsplit]] at hfit
    exact hfit.before
  exact ⟨by rw [apply_reference hnext.before, if_pos hnext], answers_answer hnext⟩

/-- **The aggregator meets its reference.** Whatever ticks a new aggregator takes, of whatever
symbols and times, it does not fault as long as no volume is too large. It ignores exactly the ticks
that are not accepted, and they change nothing; it opens a bucket with the first accepted tick of it
and updates it with the others, each time with the candle of the bucket's accepted ticks so far. The
buckets are opened in ascending order, aligned to the timeframe, and the two candles that are left
are those of the last two of them. -/
theorem run_reports (s : Selection) (ticks : List Tick) (hfit : VolumesFit s ticks) :
    ∃ a events, (empty s.symbol s.timeframe).run ticks = .ok (a, events) ∧
      Reports s ticks a events := by
  have hopened : openedBuckets (answers s [] ticks) = liveBuckets s ticks := by
    have happend : liveBuckets s ([] ++ ticks) =
        liveBuckets s [] ++ openedBuckets (answers s [] ticks) := liveBuckets_append hfit
    exact happend.symm
  have hbuckets := map_bucketStart_liveCandles hfit
  refine ⟨_, _, run_empty hfit, ?_⟩
  refine
    { length_eq := length_answers
      step := fun before t after hsplit => ?_
      opened_eq := hopened
      opened_ascending := hopened ▸ ascending_liveBuckets
      opened_aligned := fun b hb => ?_
      current := ?_
      lastClosed := ?_
      valid := fun ht e he => ?_ }
  · -- The ticks before one lead to the reference of them, which answers it.
    obtain ⟨happly, hans⟩ := step_answers hfit hsplit
    refine ⟨reference s before, reference s (before ++ [t]), answer s before t, ?_, happly, ?_,
      hans, fun hnone => ?_⟩
    · rw [run_empty (VolumesFit.before (hsplit ▸ hfit)), hsplit, answers_append, List.take_left']
      exact length_answers
    · rw [hsplit, answers_append, List.getElem?_append_right (by simp)]
      simp [answers]
    · rw [reference, liveCandles_of_not (hans.none_iff.mp hnone)]
      exact ⟨rfl, rfl⟩
  · -- A bucket is opened by a tick of it, and the bucket of a tick is aligned.
    obtain ⟨t, ht⟩ := List.exists_mem_of_ne_nil _ (mem_liveBuckets.mp (hopened ▸ hb))
    rw [← (mem_acceptedIn.mp ht).2]
    exact Int.dvd_mul_left _ _
  · rw [← hbuckets, List.getLast?_map]
    exact isCandleOf_of_mem fun c hc => List.mem_of_getLast? hc
  · rw [← hbuckets, ← List.map_dropLast, List.getLast?_map]
    exact isCandleOf_of_mem fun c hc => List.dropLast_subset _ (List.mem_of_getLast? hc)
  · -- The candle of an event is made of ticks that are among those taken.
    obtain ⟨before, t, after, hsplit, hevent⟩ := exists_of_mem_answers he
    obtain ⟨-, hans⟩ := step_answers hfit hsplit
    refine (hans.aggregates e hevent.symm).valid fun u hu => ht u ?_
    have hmem := (symbol_of_mem_accepted (mem_acceptedIn.mp hu).1).1
    rw [hsplit]
    simp only [List.mem_append, List.mem_cons, List.not_mem_nil, or_false] at hmem ⊢
    exact hmem.imp_right .inl

/-- The selection of a dollar book by the minute. -/
def byMinute : Selection := ⟨⟨"BTC-USD"⟩, .m1⟩

/-- A purchase of `magnitude / 10 ^ scale` for the price of one, at the beginning of 1970. -/
def purchase (magnitude scale : Nat) : Tick :=
  { symbol := byMinute.symbol
    price := (Decimal.ofInt? 1).getD default
    size := (Decimal.ofSigned? false magnitude scale).getD default
    side := .buy
    time := default
    stats := default }

/-- Two purchases, of 1.0000000000000000000000000001 and of 9: their volume has 30 digits, and 96
bits hold 29 of them. -/
def longVolume : List Tick := [purchase 10000000000000000000000000001 28, purchase 9 0]

theorem run_reports_longVolume :
    VolumesFit byMinute longVolume ∧ ∃ a events,
      (empty byMinute.symbol byMinute.timeframe).run longVolume = .ok (a, events) ∧
        Reports byMinute longVolume a events :=
  ⟨by decide +kernel, run_reports byMinute longVolume (by decide +kernel)⟩

/-- The volume is a sum of decimals: where their sum needs more than 96 bits it is rounded, and then
it is not the sum of the numbers. -/
theorem volume_rounded :
    ¬ ∀ s ticks, VolumesFit s ticks → ∀ a events,
      (empty s.symbol s.timeframe).run ticks = .ok (a, events) → ∀ c, a.current = some c →
        c.volume.toRat =
          ((acceptedIn s c.bucketStart ticks).map fun t => t.size.toRat).sum := by
  intro h
  have hfit : VolumesFit byMinute longVolume := by decide +kernel
  obtain ⟨c, hc⟩ := hfit.exists_candleAt? (b := 0) (by decide +kernel)
  have hcurrent : (reference byMinute longVolume).current = candleAt? byMinute longVolume 0 := by
    decide +kernel
  have hne : ∀ c ∈ candleAt? byMinute longVolume 0, c.volume.toRat ≠
      ((acceptedIn byMinute c.bucketStart longVolume).map fun t => t.size.toRat).sum := by
    decide +kernel
  exact hne c hc (h _ _ hfit _ _ (run_empty hfit) c (hcurrent.trans hc))

end TickChart.Aggregator
