import TickChart.Proofs.Aggregator
import TickChart.Proofs.Run

/-!
# History and live candles as one series

The history of a selection comes in while its ticks do, at a moment that nobody chooses. The series
that is shown in the end depends on that moment in one place only: the candle of the last bucket
that the history has.

* `Revisited`: an accepted tick of a bucket, not the first one, came after the history.
* `Between`: the candle of the last bucket of the history.
* `Joined`, `Merged`: what the series is made of. Before the last bucket of the history there is
  nothing but history, after it nothing but live candles.
* `merged_answer`: how one more tick changes such a series.
* `Engine.Started`, `Engine.Follows`: an engine that has just started a selection, and one that has
  taken ticks since.
* `Engine.history_meets_live`: the series of every such run.
-/

namespace TickChart

/-- An accepted tick of the bucket, not the first one of it, came after `before`. -/
def Revisited (s : Selection) (bucket : Int) (before after : List Tick) : Prop :=
  ∃ middle t rest, after = middle ++ t :: rest ∧ t.Accepted s (before ++ middle) ∧
    t.bucket s.timeframe = bucket ∧ acceptedIn s bucket (before ++ middle) ≠ []

/-- The candle of the bucket of `last`, the last candle of a history that came in between the ticks
`before` and `after`: the live one if the bucket was revisited after the history, and otherwise
`last`. -/
structure Between (s : Selection) (last : Candle) (before after : List Tick) (c : Candle) :
    Prop where
  revisited : Revisited s last.bucketStart before after →
    candleAt? s (before ++ after) last.bucketStart = some c
  untouched : ¬ Revisited s last.bucketStart before after → c = last

/-- The series is a history, `last` being the last candle of it and `front` the others, with the
live candles of later buckets behind it. -/
def Joined (s : Selection) (front : List Candle) (last : Candle) (before after : List Tick)
    (series : List Candle) : Prop :=
  ∃ c, Between s last before after c ∧ series =
    front ++ c :: (liveCandles s (before ++ after)).filter (last.bucketStart < ·.bucketStart)

/-- The series of a selection whose history `candles` came in between the ticks `before` and
`after`. Without candles it is the live candles alone. -/
def Merged (s : Selection) (candles : List Candle) (before after : List Tick)
    (series : List Candle) : Prop :=
  match (Series.ofCandles candles).getLast? with
  | none => series = liveCandles s (before ++ after)
  | some last => Joined s (Series.ofCandles candles).dropLast last before after series

variable {s : Selection} {candles series front live : List Candle} {before after ticks : List Tick}
  {t : Tick} {b : Int} {c last : Candle} {timeline : Timeline}

/-! ## Revisited buckets -/

theorem not_revisited_nil : ¬ Revisited s b before [] := by
  rintro ⟨middle, t, rest, h, -⟩
  simp at h

theorem revisited_concat :
    Revisited s b before (after ++ [t]) ↔
      Revisited s b before after ∨ t.Accepted s (before ++ after) ∧ t.bucket s.timeframe = b ∧
        acceptedIn s b (before ++ after) ≠ [] := by
  constructor
  · rintro ⟨middle, u, rest, h, hu⟩
    rcases rest.eq_nil_or_concat' with rfl | ⟨rest, v, rfl⟩
    · obtain ⟨rfl, hlast⟩ := List.append_inj' h rfl
      obtain rfl := List.singleton_inj.mp hlast
      exact .inr hu
    · rw [← List.cons_append, ← List.append_assoc] at h
      obtain ⟨rfl, -⟩ := List.append_inj' h rfl
      exact .inl ⟨middle, u, rest, rfl, hu⟩
  · rintro (⟨middle, u, rest, rfl, hu⟩ | hu)
    · exact ⟨middle, u, rest ++ [t], by simp, hu⟩
    · exact ⟨after, t, [], rfl, hu⟩

/-! ## Later candles -/

theorem filter_eq_nil_of_le (h : ∀ d ∈ live, d.bucketStart ≤ b) :
    live.filter (b < ·.bucketStart) = [] := by
  rw [List.filter_eq_nil_iff]
  intro d hd
  simp [h d hd]

theorem filter_concat_of_lt (h : b < c.bucketStart) :
    (front ++ [c]).filter (b < ·.bucketStart) = front.filter (b < ·.bucketStart) ++ [c] := by
  simp [List.filter_append, h]

/-- When a bucket is updated, no live candle is of a later one, before and after. -/
theorem filter_updates {old : Candle} (ht : Aggregator.Updates s ticks t front old c)
    (hle : c.bucketStart ≤ b) :
    (front ++ [old]).filter (b < ·.bucketStart) = [] ∧
      (front ++ [c]).filter (b < ·.bucketStart) = [] := by
  have hasc : Series.Ascending (front ++ [old]) := ht.before ▸ ascending_liveCandles
  have hfront : ∀ x ∈ front, x.bucketStart ≤ b := by
    intro x hx
    have hlt := (Series.ascending_concat.mp hasc).2 x hx
    rw [ht.old_eq] at hlt
    exact Int.le_trans (Int.le_of_lt hlt) hle
  constructor
  · rw [List.filter_append, filter_eq_nil_of_le hfront,
      filter_eq_nil_of_le (by simp [ht.old_eq, hle]), List.append_nil]
  · rw [List.filter_append, filter_eq_nil_of_le hfront, filter_eq_nil_of_le (by simp [hle]),
      List.append_nil]

/-- The last candle of a series is among those behind any part of it. -/
theorem mem_of_lastBucket? (h : Series.lastBucket? (front ++ c :: live) = some b) :
    ∃ d ∈ c :: live, d.bucketStart = b := by
  rw [Series.lastBucket?, List.getLast?_append_cons] at h
  obtain ⟨d, hd, rfl⟩ := Option.map_eq_some_iff.mp h
  exact ⟨d, List.mem_of_getLast? hd, rfl⟩

/-! ## One more tick -/

/-- The candle of the last bucket of the history is of that bucket, from wherever it comes. -/
theorem Between.bucketStart_eq (h : Between s last before after c) :
    c.bucketStart = last.bucketStart := by
  by_cases hr : Revisited s last.bucketStart before after
  · exact bucketStart_of_candleAt? (h.revisited hr)
  · rw [h.untouched hr]

/-- It stays when the tick does not revisit its bucket. -/
theorem Between.concat (h : Between s last before after c)
    (ht : ¬ (t.Accepted s (before ++ after) ∧ t.bucket s.timeframe = last.bucketStart ∧
      acceptedIn s last.bucketStart (before ++ after) ≠ []))
    (hc : Revisited s last.bucketStart before after →
      candleAt? s (before ++ after ++ [t]) last.bucketStart =
        candleAt? s (before ++ after) last.bucketStart) :
    Between s last before (after ++ [t]) c := by
  have hrev : Revisited s last.bucketStart before (after ++ [t]) ↔
      Revisited s last.bucketStart before after :=
    revisited_concat.trans (or_iff_left ht)
  refine ⟨fun hr => ?_, fun hr => h.untouched fun hr' => hr (hrev.mpr hr')⟩
  rw [← List.append_assoc, hc (hrev.mp hr)]
  exact h.revisited (hrev.mp hr)

theorem Between.concat_of_ne (h : Between s last before after c)
    (hne : t.bucket s.timeframe ≠ last.bucketStart) : Between s last before (after ++ [t]) c :=
  h.concat (fun ht => hne ht.2.1) fun _ => candleAt?_concat_of_ne hne

/-- A tick that is not accepted leaves everything as it is. -/
theorem joined_ignored (ht : ¬ t.Accepted s (before ++ after))
    (h : Joined s front last before after series) :
    Joined s front last before (after ++ [t]) series := by
  obtain ⟨d, hd, hs⟩ := h
  refine ⟨d, hd.concat (fun hr => ht hr.1) fun _ => by rw [candleAt?_concat_of_not ht], ?_⟩
  rw [← List.append_assoc, liveCandles_of_not ht, hs]

/-- A bucket that is opened goes behind the series, unless the history covers it. -/
theorem joined_opened (ht : Aggregator.Opens s (before ++ after) t c)
    (h : Joined s front last before after timeline.series) :
    Joined s front last before (after ++ [t])
      (timeline.after (.follow timeline.generation (.opened c))).series := by
  obtain ⟨d, hd, hs⟩ := h
  refine ⟨d, hd.concat ?_ fun hr => ?_, ?_⟩
  · -- A first tick does not revisit its bucket,
    exact fun ⟨_, hbucket, hne⟩ => hne (hbucket ▸ ht.first)
  · -- and a revisited bucket is not opened.
    have hmem := mem_liveBuckets_of_candleAt? (hd.revisited hr)
    exact candleAt?_concat_of_ne fun heq => mem_liveBuckets.mp hmem (heq ▸ ht.first)
  · rw [← List.append_assoc, ht.live]
    by_cases hlater : last.bucketStart < c.bucketStart
    · rw [filter_concat_of_lt hlater, Timeline.after_opened, hs]
      · simp
      · intro b hlast
        obtain ⟨x, hx, rfl⟩ := mem_of_lastBucket? (hs ▸ hlast)
        rcases List.mem_cons.mp hx with rfl | hx
        · rwa [hd.bucketStart_eq]
        · exact ht.later x (List.mem_filter.mp hx).1
    · have hle := Int.not_lt.mp hlater
      have hnone :
          (liveCandles s (before ++ after)).filter (last.bucketStart < ·.bucketStart) = [] :=
        filter_eq_nil_of_le fun x hx => Int.le_trans (Int.le_of_lt (ht.later x hx)) hle
      rw [hnone] at hs
      have hlast : Series.lastBucket? timeline.series = some last.bucketStart := by
        rw [hs, Series.lastBucket?_concat, hd.bucketStart_eq]
      rw [Timeline.after_opened_of_le hlast hle, List.filter_append, hnone, hs]
      simp [hle]

/-- A bucket that is updated takes the last place of the series, unless the history is ahead of
it. -/
theorem joined_updated {old : Candle} {rest : List Candle}
    (ht : Aggregator.Updates s (before ++ after) t rest old c)
    (h : Joined s front last before after timeline.series) :
    Joined s front last before (after ++ [t])
      (timeline.after (.follow timeline.generation (.updated c))).series := by
  obtain ⟨d, hd, hs⟩ := h
  simp only [Joined, ← List.append_assoc, ht.live]
  rw [ht.before] at hs
  by_cases hlater : last.bucketStart < c.bucketStart
  · -- The live candle is behind the history, and the last one of the series.
    have hne : t.bucket s.timeframe ≠ last.bucketStart := ht.bucket_eq ▸ hlater.ne'
    rw [filter_concat_of_lt (ht.old_eq ▸ hlater), ← List.cons_append, ← List.append_assoc] at hs
    refine ⟨d, hd.concat_of_ne hne, ?_⟩
    rw [filter_concat_of_lt hlater, Timeline.after_updated hs ht.old_eq]
    simp
  · -- No live candle is behind the history, before the tick and after it.
    have hle := Int.not_lt.mp hlater
    obtain ⟨hbefore, hafter⟩ := filter_updates ht hle
    rw [hbefore] at hs
    rw [hafter]
    by_cases heq : c.bucketStart = last.bucketStart
    · -- The tick revisits the last bucket of the history.
      have hbucket : t.bucket s.timeframe = last.bucketStart := ht.bucket_eq.symm.trans heq
      have hrev : Revisited s last.bucketStart before (after ++ [t]) :=
        revisited_concat.mpr (.inr ⟨ht.accepted, hbucket, hbucket ▸ ht.again⟩)
      refine ⟨c, ⟨fun _ => ?_, fun hr => absurd hrev hr⟩, ?_⟩
      · rw [← List.append_assoc, ← hbucket, ht.candle]
      · rw [Timeline.after_updated hs (hd.bucketStart_eq.trans heq.symm)]
    · have hne : t.bucket s.timeframe ≠ last.bucketStart := ht.bucket_eq ▸ heq
      have hlast : Series.lastBucket? timeline.series ≠ some c.bucketStart := by
        rw [hs, Series.lastBucket?_concat, hd.bucketStart_eq]
        exact fun h => heq (Option.some.inj h).symm
      refine ⟨d, hd.concat_of_ne hne, ?_⟩
      rw [Timeline.after_updated_of_ne hlast, hs]

/-- What a tick is answered makes of the series before it the series after it. -/
theorem merged_answer (hfit : VolumesFit s (before ++ (after ++ [t])))
    (h : Merged s candles before after timeline.series) :
    Merged s candles before (after ++ [t])
      (timeline.afterEvent timeline.generation
        (Aggregator.answer s (before ++ after) t)).series := by
  rw [← List.append_assoc] at hfit
  have hcases := Aggregator.answer_cases hfit
  simp only [Merged] at h ⊢
  cases hlast : (Series.ofCandles candles).getLast? with
  | none =>
    -- Without history the tick does to the series what it does to the live candles.
    simp only [hlast, ← List.append_assoc] at h ⊢
    obtain ⟨hans, ht⟩ | ⟨c, hans, ht⟩ | ⟨front, old, c, hans, ht⟩ := hcases
    · rw [hans, liveCandles_of_not ht]
      exact h
    · rw [hans, ht.live, ← h]
      refine congrArg Timeline.series (Timeline.after_opened fun b hb => ?_)
      obtain ⟨front, d, hd, rfl⟩ := Series.lastBucket?_eq_some_iff.mp (h ▸ hb)
      exact ht.later d (by simp [hd])
    · rw [hans, ht.live]
      exact congrArg Timeline.series (Timeline.after_updated (h.trans ht.before) ht.old_eq)
  | some last =>
    simp only [hlast] at h ⊢
    obtain ⟨hans, ht⟩ | ⟨c, hans, ht⟩ | ⟨front, old, c, hans, ht⟩ := hcases
    · rw [hans]
      exact joined_ignored ht h
    · rw [hans]
      exact joined_opened ht h
    · rw [hans]
      exact joined_updated ht h

/-! ## Engines -/

namespace Engine

/-- An engine that has just started a selection: its owner selected it, or wanted it anew. -/
inductive Started (s : Selection) : Engine → Prop where
  | select (e : Engine) (underway : Bool) : Started s (e.select s underway).1
  | retry (e : Engine) (underway : Bool) (h : e.selection = some s) : Started s (e.retry underway).1

/-- The engine has a session of its present generation, whose aggregator has taken these ticks. -/
def Follows (e : Engine) (s : Selection) (ticks : List Tick) : Prop :=
  ∃ session, e.session = some session ∧ session.generation = e.timeline.generation ∧
    session.aggregator = Aggregator.reference s ticks

/-- The candles that a history brings, if there is one. -/
def brought : Option HistoryResult → List Candle
  | some (.ok (.loaded candles)) => candles
  | _ => []

variable {e : Engine}

theorem Follows.of_frame {next : Engine} (h : e.Follows s ticks)
    (ht : next.timeline.generation = e.timeline.generation) (hs : next.session = e.session) :
    next.Follows s ticks := by
  obtain ⟨session, hsession, hg, ha⟩ := h
  exact ⟨session, hs.trans hsession, hg.trans ht.symm, ha⟩

theorem follows_start (e : Engine) (s : Selection) : (e.start s).1.Follows s [] :=
  ⟨_, rfl, rfl, rfl⟩

/-- A start leaves an empty series and an aggregator without ticks. -/
theorem Started.follows (h : Started s e) : e.Follows s [] ∧ e.timeline.series = [] := by
  have hpoll : ∀ e : Engine, ∀ underway : Bool,
      ((e.start s).1.startPoll true underway).1.Follows s [] ∧
        ((e.start s).1.startPoll true underway).1.timeline.series = [] := by
    intro e underway
    obtain ⟨ht, hs, -⟩ := startPoll_frame (e.start s).1 true underway
    exact ⟨(follows_start e s).of_frame (by rw [ht]) hs, by rw [ht]; rfl⟩
  cases h with
  | select e underway =>
    simp only [Engine.select]
    split
    · exact ⟨follows_start e s, rfl⟩
    · exact hpoll e underway
  | retry e underway h =>
    simp only [Engine.retry, h]
    exact hpoll e underway

/-- A tick leads from the reference to the reference, and the timeline follows what it is answered.
-/
theorem onTick_follows (hfit : VolumesFit s (ticks ++ [t])) (h : e.Follows s ticks) :
    ∃ next orders, e.handle (.tick t) = (.ok next, orders) ∧ next.Follows s (ticks ++ [t]) ∧
      next.timeline =
        e.timeline.afterEvent e.timeline.generation (Aggregator.answer s ticks t) := by
  obtain ⟨session, hs, hg, ha⟩ := h
  have happly : session.aggregator.apply t =
      .ok (Aggregator.reference s (ticks ++ [t]), Aggregator.answer s ticks t) := by
    rw [ha, Aggregator.apply_reference hfit.before, if_pos hfit]
  have htick := onTick_eq hs happly
  rw [hg] at htick
  refine ⟨_, (e.onTick t).2, Prod.ext htick rfl, ⟨_, rfl, ?_, rfl⟩, rfl⟩
  exact Timeline.afterEvent_generation.symm

/-- Ticks lead from merged series to merged series. -/
theorem run_ticks (ticks : List Tick) (hfit : VolumesFit s (before ++ (after ++ ticks)))
    (hf : e.Follows s (before ++ after)) (hm : Merged s candles before after e.timeline.series) :
    ∃ done orders, e.run (ticks.map .tick) = (.ok done, orders) ∧
      done.Follows s (before ++ (after ++ ticks)) ∧
      done.timeline.generation = e.timeline.generation ∧
      Merged s candles before (after ++ ticks) done.timeline.series := by
  induction ticks generalizing e after with
  | nil => exact ⟨e, [], rfl, by simpa using hf, rfl, by simpa using hm⟩
  | cons t ticks ih =>
    rw [show after ++ t :: ticks = (after ++ [t]) ++ ticks by simp] at hfit ⊢
    have hnext : VolumesFit s (before ++ (after ++ [t])) := by
      rw [← List.append_assoc] at hfit
      exact hfit.before
    obtain ⟨next, orders, htick, hfollows, htimeline⟩ :=
      onTick_follows (by rwa [List.append_assoc]) hf
    have hmerged := merged_answer hnext hm
    rw [← htimeline] at hmerged
    rw [List.append_assoc] at hfollows
    obtain ⟨done, more, hrun, hdone, hgen, hm'⟩ := ih hfit hfollows hmerged
    refine ⟨done, orders ++ more, ?_, hdone, hgen.trans ?_, hm'⟩
    · rw [List.map_cons, run_cons_of_ok htick, hrun]
    · rw [htimeline, Timeline.afterEvent_generation]

/-! ## The history -/

theorem replay_cons (timeline : Timeline) (c : Candle) (live : List Candle) :
    (replay timeline (c :: live)).1 =
      (replay (timeline.after (.follow timeline.generation (.opened c))) live).1 := by
  simp only [replay, Timeline.after]
  cases timeline.follow timeline.generation (.opened c) <;> rfl

/-- Live candles that are all later than a series go behind it. -/
theorem replay_eq (h : Series.Ascending (timeline.series ++ live)) :
    (replay timeline live).1 = ⟨timeline.generation, timeline.series ++ live⟩ := by
  induction live generalizing timeline with
  | nil => rw [List.append_nil]; rfl
  | cons c live ih =>
    rw [List.append_cons] at h ⊢
    have hc := Series.ascending_concat.mp (h.sublist (List.sublist_append_left _ live))
    rw [replay_cons, Timeline.after_opened]
    · exact ih h
    · intro b hb
      obtain ⟨front, d, hd, rfl⟩ := Series.lastBucket?_eq_some_iff.mp hb
      exact hc.2 d (by simp [hd])

theorem ascending_newerThan (hs : Series.Ascending series) (hl : Series.Ascending live) :
    Series.Ascending (series ++ newerThan series live) := by
  simp only [newerThan]
  cases hlast : Series.lastBucket? series with
  | none => rwa [Series.lastBucket?_eq_none_iff.mp hlast]
  | some last =>
    refine List.pairwise_append.mpr ⟨hs, hl.sublist List.filter_sublist, fun c hc d hd => ?_⟩
    have hlater := of_decide_eq_true (List.mem_filter.mp hd).2
    exact Int.lt_of_le_of_lt (hs.le_lastBucket hlast hc) hlater

theorem merged_newerThan :
    Merged s candles before []
      (Series.ofCandles candles ++
        newerThan (Series.ofCandles candles) (liveCandles s before)) := by
  simp only [Merged, newerThan, Series.lastBucket?]
  cases hlast : (Series.ofCandles candles).getLast? with
  | none => simp [List.getLast?_eq_none_iff.mp hlast]
  | some last =>
    obtain ⟨front, hfront⟩ := List.getLast?_eq_some_iff.mp hlast
    refine ⟨last, ⟨fun hr => absurd hr not_revisited_nil, fun _ => rfl⟩, ?_⟩
    simp [hfront]

/-- A history takes the place of the live candles up to its last bucket. -/
theorem onHistory_merged (selection : Selection) (result : HistoryResult)
    (hs : e.timeline.series = liveCandles s before) :
    (e.onHistory e.timeline.generation selection result).1.session = e.session ∧
      (e.onHistory e.timeline.generation selection result).1.timeline.generation =
        e.timeline.generation ∧
      Merged s (brought (some result)) before []
        (e.onHistory e.timeline.generation selection result).1.timeline.series := by
  have hnothing : Merged s [] before [] e.timeline.series := by
    show e.timeline.series = liveCandles s (before ++ [])
    rw [hs, List.append_nil]
  rcases result with error | ⟨candles⟩ | _
  · simp only [onHistory, ne_eq, not_true_eq_false, ↓reduceIte]
    exact ⟨trivial, trivial, hnothing⟩
  · obtain ⟨hstate, -⟩ := onHistory_loaded e selection candles
    rw [hstate, replay_eq (ascending_newerThan (Series.ascending_ofCandles candles)
      (hs ▸ ascending_liveCandles)), hs]
    exact ⟨rfl, rfl, merged_newerThan⟩
  · simp only [onHistory, ne_eq, not_true_eq_false, ↓reduceIte]
    exact ⟨trivial, trivial, hnothing⟩

/-! ## Every run -/

/-- **History and live candles merge.** Whenever the history of a selection comes in between its
ticks, whatever it brings and whatever ticks there are, the engine does not fault as long as no
volume is too large, and its series is the merged one: that of the history before the last bucket it
has, that of the ticks after it, and for the last bucket the live candle if a tick came back to it
after the history. Without a history, or with one that brings no candles, the series is the live
candles. -/
theorem history_meets_live (s : Selection) (e : Engine) (hstart : Started s e)
    (before after : List Tick) (selection : Selection) (result : Option HistoryResult)
    (hfit : VolumesFit s (before ++ after)) :
    IsLive s (before ++ after) (liveCandles s (before ++ after)) ∧ ∃ done orders,
      e.run (before.map .tick ++
          (result.map fun r => .history e.timeline.generation selection r).toList ++
          after.map .tick) = (.ok done, orders) ∧
        Merged s (brought result) before after done.timeline.series := by
  refine ⟨isLive_liveCandles hfit, ?_⟩
  obtain ⟨hf, hempty⟩ := hstart.follows
  have hm : Merged s [] [] [] e.timeline.series := hempty
  cases result with
  | none =>
    obtain ⟨done, orders, hrun, -, -, hlive⟩ := run_ticks (before ++ after) hfit hf hm
    refine ⟨done, orders, ?_, hlive⟩
    rw [← hrun, List.map_append]
    simp
  | some result =>
    obtain ⟨next, orders, hrun, hfollows, hgen, hlive⟩ := run_ticks before hfit.before hf hm
    obtain ⟨hsession, hgen', hmerged⟩ := onHistory_merged selection result hlive
    have hloaded : (next.onHistory next.timeline.generation selection result).1.Follows s
        (before ++ []) := by
      rw [List.append_nil]
      exact hfollows.of_frame hgen' hsession
    obtain ⟨done, more, hrun', -, -, hm'⟩ := run_ticks after hfit hloaded hmerged
    have hhistory : next.handle (.history e.timeline.generation selection result) =
        answer (next.onHistory next.timeline.generation selection result) := by
      rw [hgen]
      rfl
    refine ⟨done,
      orders ++ ((next.onHistory next.timeline.generation selection result).2 ++ more), ?_, hm'⟩
    rw [List.append_assoc, run_append_of_ok hrun, Option.map_some, Option.toList_some,
      List.singleton_append, run_cons_of_ok hhistory, hrun']

open Aggregator in
/-- A history with the bucket of both ticks comes in between them. -/
theorem history_between_longVolume :
    let e := (initial.select byMinute false).1
    let before := longVolume.take 1
    let after := longVolume.drop 1
    let result : HistoryResult := .ok (.loaded [.openAt 0 .zero .zero])
    Started byMinute e ∧ VolumesFit byMinute (before ++ after) ∧
      IsLive byMinute (before ++ after) (liveCandles byMinute (before ++ after)) ∧ ∃ done orders,
        e.run (before.map .tick ++ [.history e.timeline.generation byMinute result] ++
          after.map .tick) = (.ok done, orders) ∧
        Merged byMinute (brought (some result)) before after done.timeline.series :=
  ⟨.select initial false, by decide +kernel,
    history_meets_live byMinute _ (.select initial false) _ _ byMinute (some _) (by decide +kernel)⟩

end Engine

end TickChart
