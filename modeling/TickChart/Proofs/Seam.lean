import TickChart.Proofs.Merge
import TickChart.Proofs.Surface

/-!
# The seam between history and live candles

The last bucket of a history may be open still, and its ticks may come before the history or after
it. What is displayed of this bucket in the end depends on one thing only: whether a tick other than
the first one came after the history.

* `Within`: ticks of one bucket of a selection. They are all accepted.
* `revisited_iff`: when such ticks come back to their bucket after the history.
* `run_history`: a history between ticks, whatever it brings.
* `candles_of_run`: what is displayed after a run.
* `display_seam`: the displayed candle of the last bucket of a history, for every position of the
  history among the ticks of this bucket.
-/

namespace TickChart

/-- All of the ticks are of the selection's symbol and fall in the bucket. -/
def Within (s : Selection) (bucket : Int) (ticks : List Tick) : Prop :=
  ∀ t ∈ ticks, t.symbol = s.symbol ∧ t.bucket s.timeframe = bucket

instance (s : Selection) (bucket : Int) (ticks : List Tick) : Decidable (Within s bucket ticks) :=
  inferInstanceAs (Decidable (∀ t ∈ ticks, t.symbol = s.symbol ∧ t.bucket s.timeframe = bucket))

variable {s : Selection} {bucket : Int} {ticks before after : List Tick} {t : Tick}

theorem Within.left (h : Within s bucket (before ++ after)) : Within s bucket before :=
  fun t ht => h t (List.mem_append_left _ ht)

/-- One more tick of the bucket is accepted. -/
theorem Within.accepted (h : Within s bucket (ticks ++ [t])) : t.Accepted s ticks := by
  have ht := h t (by simp)
  exact ⟨ht.1, fun u hu _ => by rw [ht.2, (h.left u hu).2]⟩

theorem Within.acceptedIn_eq (h : Within s bucket ticks) : acceptedIn s bucket ticks = ticks := by
  induction ticks using List.reverseRecOn with
  | nil => rfl
  | append_singleton ticks t ih =>
    have ht := h t (by simp)
    rw [acceptedIn_concat h.accepted, if_pos ht.2, ih h.left]

/-- No live candle is of another bucket. -/
theorem Within.bucketStart_eq (h : Within s bucket ticks) {c : Candle}
    (hc : c ∈ liveCandles s ticks) : c.bucketStart = bucket := by
  have hmem := mem_liveBuckets_of_candleAt? (mem_liveCandles.mp hc)
  obtain ⟨t, ht⟩ := List.exists_mem_of_ne_nil _ (mem_liveBuckets.mp hmem)
  obtain ⟨hin, hbucket⟩ := mem_acceptedIn.mp ht
  rw [← hbucket]
  exact (h t (symbol_of_mem_accepted hin).1).2

/-- Ticks of one bucket come back to it after a history if there is one after it that is not the
first of all. -/
theorem Within.revisited_iff (h : Within s bucket (before ++ after)) :
    Revisited s bucket before after ↔ after ≠ [] ∧ 1 < (before ++ after).length := by
  constructor
  · rintro ⟨middle, t, rest, rfl, -, -, hne⟩
    refine ⟨by simp, ?_⟩
    have hpos : (before ++ middle).length ≠ 0 := by
      intro hzero
      rw [List.length_eq_zero_iff.mp hzero] at hne
      exact hne rfl
    simp only [List.length_append, List.length_cons] at hpos ⊢
    omega
  · rintro ⟨hne, hlength⟩
    obtain ⟨middle, t, rfl⟩ := List.eq_nil_or_concat' after |>.resolve_left hne
    have hsplit : before ++ (middle ++ [t]) = (before ++ middle) ++ [t] := by simp
    rw [hsplit] at h hlength
    refine ⟨middle, t, [], rfl, h.accepted, (h t (by simp)).2, ?_⟩
    rw [h.left.acceptedIn_eq]
    rintro hnil
    simp [hnil] at hlength

namespace Engine

variable {e : Engine} {candles : List Candle} {last : Candle}

/-- A history comes in between ticks. -/
theorem run_history (hstart : Started s e) (selection : Selection) (result : HistoryResult)
    (hfit : VolumesFit s (before ++ after)) :
    ∃ done orders, e.run (before.map .tick ++
        .history e.timeline.generation selection result :: after.map .tick) = (.ok done, orders) ∧
      Merged s (brought (some result)) before after done.timeline.series := by
  obtain ⟨hf, hempty⟩ := hstart.follows
  have hm : Merged s [] [] [] e.timeline.series := hempty
  obtain ⟨next, orders, hrun, hfollows, hgen, hlive⟩ := run_ticks before hfit.before hf hm
  obtain ⟨hsession, hgen', hmerged⟩ := onHistory_merged selection result hlive
  have hloaded : (next.onHistory next.timeline.generation selection result).1.Follows s
      (before ++ []) := by
    rw [List.append_nil]
    exact hfollows.of_frame hgen' hsession
  obtain ⟨done, more, hrun', -, -, hm⟩ := run_ticks after hfit hloaded hmerged
  have hhistory : next.handle (.history e.timeline.generation selection result) =
      answer (next.onHistory next.timeline.generation selection result) := by
    rw [hgen]
    rfl
  refine ⟨done, orders ++
    ((next.onHistory next.timeline.generation selection result).2 ++ more), ?_, hm⟩
  rw [run_append_of_ok hrun, run_cons_of_ok hhistory, hrun']

/-- After a run without a fault the series of the engine is displayed. -/
theorem candles_of_run {inputs : List Input} {orders : List Order}
    (h : initial.run inputs = (.ok e, orders)) :
    (Display.blank.afterAll (calls orders)).candles = e.timeline.series := by
  have hblank : Display.blank.Shows initial.timeline := ⟨rfl, Series.ascending_nil⟩
  obtain ⟨t, ht, hlast⟩ := told_run hblank inputs
  rw [h] at ht hlast
  rw [hlast e rfl]
  exact ht.shows.candles

/-- **The seam.** The history of a selection that was just started comes in among ticks of its last
bucket, after the first `position` of them. Then what is displayed is the history, with the candle
of all the ticks in the place of its last one if a tick other than the first came after the history,
and with its own last one if not. -/
theorem display_seam (inputs : List Input) (started : List Order)
    (hinputs : initial.run inputs = (.ok e, started)) (s : Selection) (hstart : Started s e)
    (candles : List Candle) (last : Candle)
    (hlast : (Series.ofCandles candles).getLast? = some last) (ticks : List Tick)
    (hticks : Within s last.bucketStart ticks) (hfit : VolumesFit s ticks) (selection : Selection)
    (position : Nat) :
    ∃ done orders c, initial.run (inputs ++ ((ticks.take position).map .tick ++
          .history e.timeline.generation selection (.ok (.loaded candles)) ::
            (ticks.drop position).map .tick)) = (.ok done, orders) ∧
      (Display.blank.afterAll (calls orders)).candles =
        (Series.ofCandles candles).dropLast ++ [c] ∧
      if position < ticks.length ∧ 1 < ticks.length then
        Candle.ofTicks? last.bucketStart ticks = some c
      else c = last := by
  have hsplit := List.take_append_drop position ticks
  rw [← hsplit] at hfit hticks
  obtain ⟨done, orders, hrun, hmerged⟩ := run_history hstart selection (.ok (.loaded candles)) hfit
  simp only [Merged, brought, hlast] at hmerged
  obtain ⟨c, hc, hseries⟩ := hmerged
  rw [filter_eq_nil_of_le fun d hd => (hticks.bucketStart_eq hd).le] at hseries
  have hall := run_append_of_ok hinputs ((ticks.take position).map .tick ++
    .history e.timeline.generation selection (.ok (.loaded candles)) ::
      (ticks.drop position).map .tick)
  rw [hrun] at hall
  refine ⟨done, started ++ orders, c, hall, (candles_of_run hall).trans hseries, ?_⟩
  have hrevisited := hticks.revisited_iff
  rw [hsplit, ne_eq, List.drop_eq_nil_iff, Nat.not_le] at hrevisited
  split
  · next h =>
    have hcandle := hc.revisited (hrevisited.mpr h)
    rwa [candleAt?, hticks.acceptedIn_eq, hsplit] at hcandle
  · next h => exact hc.untouched (mt hrevisited.mp h)

open Aggregator

/-- Two purchases of one, in one bucket. -/
def twoPurchases : List Tick := [purchase 1 0, purchase 1 0]

/-- The candle of a purchase of seven in the same bucket, as a history brings it. -/
def pastCandle : Candle := .openAt 0 (purchase 7 0).price (purchase 7 0).size

/-- A history of one candle comes in after the first `position` of two purchases in its bucket. -/
def seamInputs (position : Nat) : List Input :=
  [.select byMinute false] ++ ((twoPurchases.take position).map .tick ++
    .history (initial.select byMinute false).1.timeline.generation byMinute
        (.ok (.loaded [pastCandle])) ::
      (twoPurchases.drop position).map .tick)

theorem display_seam_twoPurchases :
    (Series.ofCandles [pastCandle]).getLast? = some pastCandle ∧
      Within byMinute pastCandle.bucketStart twoPurchases ∧ VolumesFit byMinute twoPurchases ∧
      ∃ done orders c, initial.run (seamInputs 1) = (.ok done, orders) ∧
        (Display.blank.afterAll (calls orders)).candles =
          (Series.ofCandles [pastCandle]).dropLast ++ [c] ∧
        if 1 < twoPurchases.length ∧ 1 < twoPurchases.length then
          Candle.ofTicks? pastCandle.bucketStart twoPurchases = some c
        else c = pastCandle :=
  ⟨rfl, by decide +kernel, by decide +kernel,
    display_seam [.select byMinute false] _ rfl byMinute (.select initial false) [pastCandle]
      pastCandle rfl twoPurchases (by decide +kernel) (by decide +kernel) byMinute 1⟩

/-- Where the history comes last, its own candle is displayed, and elsewhere that of the purchases.
-/
theorem display_seam_differs :
    (Display.blank.afterAll (calls (initial.run (seamInputs 0)).2)).candles ≠
      (Display.blank.afterAll (calls (initial.run (seamInputs 2)).2)).candles := by
  decide +kernel

end Engine

end TickChart
