import TickChart.Proofs.Accepted
import TickChart.Proofs.Decimal

/-!
# Live candles

The candle of a bucket can be read off its accepted ticks, each part of it for itself. Nothing here
is built up tick by tick: that a candle can be is what `absorb_eq` says.

* `Candle.ofTicks?`: the candle of ticks, unless there are none or their sum is too large.
* `Candle.Aggregates`, `aggregates_of_ofTicks?`: what makes a candle the one of some ticks.
* `candleAt?`, `liveCandles`: the candle of a bucket, and those of all buckets, ascending.
* `VolumesFit`: no volume is too large.
* `VolumesFit.accepted_iff`: a tick is accepted unless it falls behind the last candle.
* `liveCandles_of_not`, `liveCandles_first`, `liveCandles_again`: the live candles after one more
  tick.
-/

namespace TickChart

/-! ## The candle of some ticks -/

namespace Candle

/-- The candle of ticks of one bucket, in their order. -/
def ofTicks? (bucket : Int) : List Tick → Option Candle
  | [] => none
  | first :: rest =>
    (Decimal.total? ((first :: rest).map Tick.size)).map fun volume =>
      { bucketStart := bucket
        openPrice := first.price
        high := (rest.map Tick.price).foldl Decimal.highest first.price
        low := (rest.map Tick.price).foldl Decimal.lowest first.price
        close := (rest.getLastD first).price
        volume }

/-- The candle is the one of these ticks: it opens with the first price and closes with the last,
its high and its low are the greatest and the smallest price, and its volume is the sum of the
sizes. The sum is that of decimals, in the order of the ticks; it is the sum of the numbers as long
as the digits of the sizes fit 96 bits together. -/
structure Aggregates (c : Candle) (bucket : Int) (ticks : List Tick) : Prop where
  bucketStart_eq : c.bucketStart = bucket
  openPrice_eq : ticks.head?.map Tick.price = some c.openPrice
  high_mem : c.high ∈ ticks.map Tick.price
  le_high : ∀ t ∈ ticks, t.price ≤ c.high
  low_mem : c.low ∈ ticks.map Tick.price
  low_le : ∀ t ∈ ticks, c.low ≤ t.price
  close_eq : ticks.getLast?.map Tick.price = some c.close
  volume_eq : Decimal.total? (ticks.map Tick.size) = some c.volume
  volume_exact : ∀ scale, Decimal.FitAt scale (ticks.map Tick.size) →
    c.volume.toRat = ((ticks.map Tick.size).map Decimal.toRat).sum

variable {bucket : Int} {ticks : List Tick} {t : Tick} {c : Candle}

theorem ofTicks?_singleton : ofTicks? bucket [t] = some (openAt bucket t.price t.size) := rfl

theorem isSome_ofTicks? :
    (ofTicks? bucket ticks).isSome ↔
      ticks ≠ [] ∧ (Decimal.total? (ticks.map Tick.size)).isSome := by
  cases ticks <;> simp [ofTicks?]

/-- What a candle becomes that takes up a tick. -/
theorem absorb_ok {grown : Candle} {price size : Decimal} (h : c.absorb price size = .ok grown) :
    ∃ volume, c.volume.add? size = some volume ∧
      grown = { c with
        high := c.high.highest price
        low := c.low.lowest price
        close := price
        volume } := by
  simp only [absorb] at h
  split at h
  · next volume hv => exact ⟨volume, hv, (Except.ok.inj h).symm⟩
  · cases h

/-- A candle takes up a tick: it becomes the candle of all the ticks, if there is one. -/
theorem absorb_eq (h : ofTicks? bucket ticks = some c) :
    c.absorb t.price t.size =
      match ofTicks? bucket (ticks ++ [t]) with
      | some grown => .ok grown
      | none => .error .sumTooLarge := by
  cases ticks with
  | nil => cases h
  | cons first rest =>
    obtain ⟨volume, hv, rfl⟩ := Option.map_eq_some_iff.mp h
    have hsum : Decimal.total? ((first :: (rest ++ [t])).map Tick.size) = volume.add? t.size := by
      rw [← List.cons_append, List.map_append, List.map_singleton,
        Decimal.total?_concat, hv]
      rfl
    simp only [absorb, List.cons_append, ofTicks?, hsum]
    cases volume.add? t.size <;> simp [List.foldl_append]

/-- The candle of some ticks has what makes it theirs. -/
theorem aggregates_of_ofTicks? (h : ofTicks? bucket ticks = some c) :
    c.Aggregates bucket ticks := by
  cases ticks with
  | nil => cases h
  | cons first rest =>
    obtain ⟨volume, hv, rfl⟩ := Option.map_eq_some_iff.mp h
    obtain ⟨hhigh, hle⟩ := Decimal.foldl_highest first.price (rest.map Tick.price)
    obtain ⟨hlow, hge⟩ := Decimal.foldl_lowest first.price (rest.map Tick.price)
    refine
      { bucketStart_eq := rfl
        openPrice_eq := rfl
        high_mem := hhigh
        le_high := fun t ht => hle _ (List.mem_map_of_mem (f := Tick.price) ht)
        low_mem := hlow
        low_le := fun t ht => hge _ (List.mem_map_of_mem (f := Tick.price) ht)
        close_eq := by simp [List.getLast?_cons]
        volume_eq := hv
        volume_exact := fun scale hfit => ?_ }
    obtain ⟨d, hd, hr, -, -⟩ := Decimal.toRat_total? hfit
    obtain rfl := Option.some.inj (hv.symm.trans hd)
    exact hr

/-- Positive prices and sizes that are not negative make a valid candle. -/
theorem Aggregates.valid (h : c.Aggregates bucket ticks)
    (ht : ∀ t ∈ ticks, Decimal.zero < t.price ∧ Decimal.zero ≤ t.size) : c.Valid := by
  obtain ⟨first, hfirst, hopen⟩ := Option.map_eq_some_iff.mp h.openPrice_eq
  obtain ⟨last, hlast, hclose⟩ := Option.map_eq_some_iff.mp h.close_eq
  have hfirst := List.mem_of_head? hfirst
  have hlast := List.mem_of_getLast? hlast
  obtain ⟨lowest, hlowest, hlow⟩ := List.mem_map.mp h.low_mem
  refine ⟨hlow ▸ (ht lowest hlowest).1, hopen ▸ h.low_le first hfirst,
    hopen ▸ h.le_high first hfirst, hclose ▸ h.low_le last hlast, hclose ▸ h.le_high last hlast, ?_⟩
  refine Decimal.total?_nonneg (fun d hd => ?_) h.volume_eq
  obtain ⟨t, hmem, rfl⟩ := List.mem_map.mp hd
  exact (ht t hmem).2

end Candle

/-! ## The candles of accepted ticks -/

/-- The candle of a bucket: that of its accepted ticks. -/
def candleAt? (s : Selection) (ticks : List Tick) (bucket : Int) : Option Candle :=
  Candle.ofTicks? bucket (acceptedIn s bucket ticks)

/-- The candles of all buckets with accepted ticks, ascending. -/
def liveCandles (s : Selection) (ticks : List Tick) : List Candle :=
  (liveBuckets s ticks).filterMap (candleAt? s ticks)

/-- The sizes of the accepted ticks of a bucket can be added up, whatever the bucket. -/
def VolumesFit (s : Selection) (ticks : List Tick) : Prop :=
  ∀ b, (Decimal.total? ((acceptedIn s b ticks).map Tick.size)).isSome

variable {s : Selection} {ticks more : List Tick} {t : Tick} {c : Candle} {b : Int}

/-- Only the buckets with accepted ticks count. -/
theorem volumesFit_iff :
    VolumesFit s ticks ↔
      ∀ b ∈ liveBuckets s ticks,
        (Decimal.total? ((acceptedIn s b ticks).map Tick.size)).isSome := by
  refine ⟨fun h b _ => h b, fun h b => ?_⟩
  by_cases hb : b ∈ liveBuckets s ticks
  · exact h b hb
  · rw [mem_liveBuckets, not_not] at hb
    simp [hb]

instance (s : Selection) (ticks : List Tick) : Decidable (VolumesFit s ticks) :=
  decidable_of_iff _ volumesFit_iff.symm

theorem volumesFit_nil : VolumesFit s [] := fun _ => rfl

theorem VolumesFit.before (h : VolumesFit s (ticks ++ more)) : VolumesFit s ticks := by
  intro b
  have hprefix : acceptedIn s b ticks <+: acceptedIn s b (ticks ++ more) := acceptedIn_prefix
  obtain ⟨rest, hrest⟩ := hprefix
  have hb := h b
  rw [← hrest, List.map_append] at hb
  exact Decimal.total?_isSome_of_append hb

theorem bucketStart_of_candleAt? (h : candleAt? s ticks b = some c) : c.bucketStart = b :=
  (Candle.aggregates_of_ofTicks? h).bucketStart_eq

theorem mem_liveBuckets_of_candleAt? (h : candleAt? s ticks b = some c) : b ∈ liveBuckets s ticks :=
  mem_liveBuckets.mpr (Candle.isSome_ofTicks?.mp (Option.isSome_of_eq_some h)).1

/-- Where volumes fit, every bucket with accepted ticks has a candle. -/
theorem VolumesFit.exists_candleAt? (h : VolumesFit s ticks) (hb : b ∈ liveBuckets s ticks) :
    ∃ c, candleAt? s ticks b = some c :=
  Option.isSome_iff_exists.mp (Candle.isSome_ofTicks?.mpr ⟨mem_liveBuckets.mp hb, h b⟩)

theorem mem_liveCandles : c ∈ liveCandles s ticks ↔ candleAt? s ticks c.bucketStart = some c := by
  rw [liveCandles, List.mem_filterMap]
  constructor
  · rintro ⟨b, -, hc⟩
    rw [bucketStart_of_candleAt? hc, hc]
  · exact fun hc => ⟨_, mem_liveBuckets_of_candleAt? hc, hc⟩

/-- There is one candle for each bucket with accepted ticks. -/
theorem map_bucketStart_liveCandles (h : VolumesFit s ticks) :
    (liveCandles s ticks).map Candle.bucketStart = liveBuckets s ticks := by
  have hsome : ∀ bs : List Int, (∀ b ∈ bs, b ∈ liveBuckets s ticks) →
      (bs.filterMap (candleAt? s ticks)).map Candle.bucketStart = bs := by
    intro bs
    induction bs with
    | nil => exact fun _ => rfl
    | cons b bs ih =>
      intro hbs
      obtain ⟨c, hc⟩ := h.exists_candleAt? (hbs b List.mem_cons_self)
      rw [List.filterMap_cons_some hc, List.map_cons, bucketStart_of_candleAt? hc,
        ih fun b hb => hbs b (List.mem_cons_of_mem _ hb)]
  exact hsome _ fun _ hb => hb

/-- The series is one candle for each bucket with accepted ticks, ascending, and each is that of the
ticks of its bucket. -/
structure IsLive (s : Selection) (ticks : List Tick) (series : List Candle) : Prop where
  buckets : series.map Candle.bucketStart = liveBuckets s ticks
  aggregates : ∀ c ∈ series, c.Aggregates c.bucketStart (acceptedIn s c.bucketStart ticks)

theorem isLive_liveCandles (h : VolumesFit s ticks) : IsLive s ticks (liveCandles s ticks) :=
  ⟨map_bucketStart_liveCandles h, fun _ hc => Candle.aggregates_of_ofTicks? (mem_liveCandles.mp hc)⟩

theorem ascending_liveCandles : Series.Ascending (liveCandles s ticks) := by
  refine List.pairwise_filterMap.mpr (ascending_liveBuckets.imp ?_)
  intro b b' hlt c hc c' hc'
  rwa [bucketStart_of_candleAt? hc, bucketStart_of_candleAt? hc']

/-- Whether a tick is accepted can be seen from the last candle. -/
theorem VolumesFit.accepted_iff (h : VolumesFit s ticks) :
    t.Accepted s ticks ↔ t.symbol = s.symbol ∧
      ∀ b, Series.lastBucket? (liveCandles s ticks) = some b → b ≤ t.bucket s.timeframe := by
  have hbuckets : ∀ b, b ∈ liveBuckets s ticks ↔ ∃ c ∈ liveCandles s ticks, c.bucketStart = b := by
    intro b
    rw [← map_bucketStart_liveCandles h, List.mem_map]
  constructor
  · intro ha
    refine ⟨ha.1, fun b hb => le_of_mem_liveBuckets ha ((hbuckets b).mpr ?_)⟩
    obtain ⟨front, c, hc, rfl⟩ := Series.lastBucket?_eq_some_iff.mp hb
    exact ⟨c, by simp [hc], rfl⟩
  · rintro ⟨hs, hle⟩
    refine TickChart.accepted_iff.mpr ⟨hs, fun u hu => ?_⟩
    have hmem : u.bucket s.timeframe ∈ liveBuckets s ticks :=
      mem_liveBuckets.mpr (List.ne_nil_of_mem (mem_acceptedIn.mpr ⟨hu, rfl⟩))
    obtain ⟨c, hc, hcb⟩ := (hbuckets _).mp hmem
    cases hb : Series.lastBucket? (liveCandles s ticks) with
    | none => rw [Series.lastBucket?_eq_none_iff.mp hb] at hc; cases hc
    | some b => exact Int.le_trans (hcb ▸ ascending_liveCandles.le_lastBucket hb hc) (hle b hb)

/-! ## One more tick -/

theorem candleAt?_concat_of_not (h : ¬ t.Accepted s ticks) :
    candleAt? s (ticks ++ [t]) = candleAt? s ticks := by
  funext b
  rw [candleAt?, acceptedIn_concat_of_not h, candleAt?]

/-- A tick does not touch the candles of other buckets than its own. -/
theorem candleAt?_concat_of_ne (h : t.bucket s.timeframe ≠ b) :
    candleAt? s (ticks ++ [t]) b = candleAt? s ticks b := by
  by_cases ha : t.Accepted s ticks
  · rw [candleAt?, acceptedIn_concat ha, if_neg h, candleAt?]
  · rw [candleAt?_concat_of_not ha]

theorem candleAt?_concat (h : t.Accepted s ticks) :
    candleAt? s (ticks ++ [t]) (t.bucket s.timeframe) =
      Candle.ofTicks? (t.bucket s.timeframe)
        (acceptedIn s (t.bucket s.timeframe) ticks ++ [t]) := by
  rw [candleAt?, acceptedIn_concat h, if_pos rfl]

theorem VolumesFit.concat_of_not (h : VolumesFit s ticks) (ha : ¬ t.Accepted s ticks) :
    VolumesFit s (ticks ++ [t]) := by
  intro b
  rw [acceptedIn_concat_of_not ha]
  exact h b

/-- Volumes still fit after an accepted tick exactly if its bucket has a candle then. -/
theorem VolumesFit.concat_iff (h : VolumesFit s ticks) (ha : t.Accepted s ticks) :
    VolumesFit s (ticks ++ [t]) ↔ (candleAt? s (ticks ++ [t]) (t.bucket s.timeframe)).isSome := by
  constructor
  · intro hfit
    refine Candle.isSome_ofTicks?.mpr ⟨?_, hfit _⟩
    simp [acceptedIn_concat ha]
  · intro hsome b
    by_cases hb : t.bucket s.timeframe = b
    · rw [← hb]
      exact (Candle.isSome_ofTicks?.mp hsome).2
    · rw [acceptedIn_concat ha, if_neg hb]
      exact h b

/-- An accepted tick is added to the volume of its bucket. -/
theorem total?_acceptedIn_concat (h : t.Accepted s ticks) :
    Decimal.total? ((acceptedIn s (t.bucket s.timeframe) (ticks ++ [t])).map Tick.size) =
      (Decimal.total? ((acceptedIn s (t.bucket s.timeframe) ticks).map Tick.size)).bind
        fun volume => volume.add? t.size := by
  rw [acceptedIn_concat h, if_pos rfl, List.map_append, List.map_singleton, Decimal.total?_concat]

/-- Volumes do not fit exactly if some accepted tick makes the volume of its bucket too large. -/
theorem not_volumesFit_iff :
    ¬ VolumesFit s ticks ↔ ∃ before t after volume, ticks = before ++ t :: after ∧
      t.Accepted s before ∧
      Decimal.total? ((acceptedIn s (t.bucket s.timeframe) before).map Tick.size) = some volume ∧
      (coeffLimit : Rat) - 1 / 2 ≤ |volume.toRat + t.size.toRat| := by
  constructor
  · induction ticks using List.reverseRecOn with
    | nil => exact fun h => (h volumesFit_nil).elim
    | append_singleton ticks t ih =>
      intro h
      by_cases hfit : VolumesFit s ticks
      · have ha : t.Accepted s ticks := by
          by_contra hnot
          exact h (hfit.concat_of_not hnot)
        obtain ⟨volume, hvolume⟩ := Option.isSome_iff_exists.mp (hfit (t.bucket s.timeframe))
        refine ⟨ticks, t, [], volume, rfl, ha, hvolume, Decimal.add?_eq_none_iff.mp ?_⟩
        by_contra hsum
        refine h ((hfit.concat_iff ha).mpr (Candle.isSome_ofTicks?.mpr ⟨?_, ?_⟩))
        · simp [acceptedIn_concat ha]
        · rw [total?_acceptedIn_concat ha, hvolume]
          exact Option.isSome_iff_ne_none.mpr hsum
      · obtain ⟨before, u, after, volume, rfl, hu⟩ := ih hfit
        exact ⟨before, u, after ++ [t], volume, by simp, hu⟩
  · rintro ⟨before, t, after, volume, rfl, ha, hvolume, hlimit⟩ hfit
    rw [show before ++ t :: after = (before ++ [t]) ++ after by simp] at hfit
    have hsum := hfit.before (t.bucket s.timeframe)
    rw [total?_acceptedIn_concat ha, hvolume, Option.bind_some,
      Decimal.add?_eq_none_iff.mpr hlimit] at hsum
    cases hsum

/-- A tick that is not accepted changes no candle. -/
theorem liveCandles_of_not (h : ¬ t.Accepted s ticks) :
    liveCandles s (ticks ++ [t]) = liveCandles s ticks := by
  rw [liveCandles, liveBuckets_concat_of_not h, candleAt?_concat_of_not h, liveCandles]

/-- The first accepted tick of its bucket adds a candle behind all others. -/
theorem liveCandles_first (h : t.Accepted s ticks)
    (hf : acceptedIn s (t.bucket s.timeframe) ticks = []) :
    (∀ c ∈ liveCandles s ticks, c.bucketStart < t.bucket s.timeframe) ∧
      candleAt? s (ticks ++ [t]) (t.bucket s.timeframe) =
        some (.openAt (t.bucket s.timeframe) t.price t.size) ∧
      liveCandles s (ticks ++ [t]) =
        liveCandles s ticks ++ [.openAt (t.bucket s.timeframe) t.price t.size] := by
  obtain ⟨hlt, hbuckets⟩ := liveBuckets_first h hf
  have hcandle : candleAt? s (ticks ++ [t]) (t.bucket s.timeframe) =
      some (.openAt (t.bucket s.timeframe) t.price t.size) := by
    rw [candleAt?_concat h, hf]
    exact Candle.ofTicks?_singleton
  refine ⟨fun c hc => hlt _ (mem_liveBuckets_of_candleAt? (mem_liveCandles.mp hc)), hcandle, ?_⟩
  rw [liveCandles, hbuckets, List.filterMap_append, List.filterMap_cons_some hcandle,
    List.filterMap_nil, liveCandles]
  congr 1
  exact List.filterMap_congr fun b hb => candleAt?_concat_of_ne (hlt b hb).ne'

/-- Another accepted tick of its bucket changes the last candle, which takes it up. -/
theorem liveCandles_again (hfit : VolumesFit s ticks) (h : t.Accepted s ticks)
    (ha : acceptedIn s (t.bucket s.timeframe) ticks ≠ []) :
    ∃ front old, liveCandles s ticks = front ++ [old] ∧ old.bucketStart = t.bucket s.timeframe ∧
      (old.absorb t.price t.size =
        match candleAt? s (ticks ++ [t]) (t.bucket s.timeframe) with
        | some grown => .ok grown
        | none => .error .sumTooLarge) ∧
      ∀ grown, candleAt? s (ticks ++ [t]) (t.bucket s.timeframe) = some grown →
        liveCandles s (ticks ++ [t]) = front ++ [grown] := by
  obtain ⟨front, hbefore, hafter⟩ := liveBuckets_again h ha
  obtain ⟨old, hold⟩ := hfit.exists_candleAt? (mem_liveBuckets.mpr ha)
  refine ⟨front.filterMap (candleAt? s ticks), old, ?_, bucketStart_of_candleAt? hold, ?_, ?_⟩
  · rw [liveCandles, hbefore, List.filterMap_append, List.filterMap_cons_some hold,
      List.filterMap_nil]
  · rw [candleAt?_concat h]
    exact Candle.absorb_eq hold
  · intro grown hgrown
    have hasc : (front ++ [t.bucket s.timeframe]).Pairwise (· < ·) :=
      hbefore ▸ ascending_liveBuckets
    rw [liveCandles, hafter, List.filterMap_append, List.filterMap_cons_some hgrown,
      List.filterMap_nil]
    congr 1
    refine List.filterMap_congr fun b hb => candleAt?_concat_of_ne ?_
    exact ((List.pairwise_append.mp hasc).2.2 b hb _ List.mem_cons_self).ne'

end TickChart
