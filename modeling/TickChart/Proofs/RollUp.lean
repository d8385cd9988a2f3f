import Mathlib.Data.List.Forall2
import Mathlib.Data.List.SplitBy
import TickChart.Proofs.Aggregator

/-!
# Rolling candles up

One stream of ticks makes up candles of every timeframe. Where no tick is earlier than the one
before it, the candles of a coarser timeframe can be had from those of a finer one, without the
ticks.

* `splitBy_key`: entries in the order of a key fall into one group for each key.
* `Aggregator.candles`: the candles that ticks make up, those that are closed and the open one.
  `Aggregator.candles_empty`: they are the live ones.
* `InOrder`, `VolumesExact`: what is asked of the ticks.
* `Series.groups`: the groups of candles that lie in one bucket of a timeframe.
* `Candle.RollsUp`: what the candle of a group is. `Candle.extreme_flatMap`,
  `Candle.Aggregates.openPrice_eq_head`, `Candle.Aggregates.close_eq_getLast`: the prices of all
  ticks and those of their parts. `Candle.Aggregates.rollsUp`: the candle of all rolls up the
  candles of the parts.
* `acceptedIn_coarse`: the ticks of a coarse bucket, by the finer buckets in it.
* `coarse_rolls_up`: the coarser candles roll up the groups of the finer ones.
-/

namespace TickChart

/-! ## Grouping by an ascending key -/

section Grouping

variable {α : Type} {key : α → Int} {entries : List α} {keys : List Int} {k : Int}

/-- In the order of their keys, the entries of the smallest key come first. -/
theorem filter_append_filter_ne (ho : entries.Pairwise fun x y => key x ≤ key y)
    (hmin : ∀ x ∈ entries, k ≤ key x) :
    entries.filter (key · = k) ++ entries.filter (key · ≠ k) = entries := by
  induction entries with
  | nil => rfl
  | cons x entries ih =>
    obtain ⟨hx, hrest⟩ := List.pairwise_cons.mp ho
    by_cases hk : key x = k
    · rw [List.filter_cons_of_pos (by simpa using hk), List.filter_cons_of_neg (by simpa using hk),
        List.cons_append, ih hrest fun y hy => hmin y (List.mem_cons_of_mem _ hy)]
    · -- the key of `x` is greater than `k`, and so are all that follow
      have hlt : ∀ y ∈ x :: entries, key y ≠ k := by
        intro y hy
        have hkx := hmin x List.mem_cons_self
        rcases List.mem_cons.mp hy with rfl | hy
        · exact hk
        · have hxy := hx y hy
          omega
      rw [List.filter_eq_nil_iff.mpr (by simpa using hlt),
        List.filter_eq_self.mpr (by simpa using hlt), List.nil_append]

/-- Entries in the order of their keys are those of the first key, then those of the second one, and
so on. -/
theorem flatMap_filter_key (hkeys : keys.Pairwise (· < ·))
    (ho : entries.Pairwise fun x y => key x ≤ key y) (hmem : ∀ x ∈ entries, key x ∈ keys) :
    (keys.flatMap fun k => entries.filter (key · = k)) = entries := by
  induction keys generalizing entries with
  | nil => exact (List.eq_nil_iff_forall_not_mem.mpr fun x hx => nomatch hmem x hx).symm
  | cons k keys ih =>
    obtain ⟨hk, hkeys⟩ := List.pairwise_cons.mp hkeys
    have hmin : ∀ x ∈ entries, k ≤ key x := by
      intro x hx
      rcases List.mem_cons.mp (hmem x hx) with heq | hx
      · omega
      · exact Int.le_of_lt (hk _ hx)
    have hother : ∀ k' ∈ keys, entries.filter (key · = k') =
        (entries.filter (key · ≠ k)).filter (key · = k') := by
      intro k' hk'
      have hlt := hk k' hk'
      rw [List.filter_filter]
      refine List.filter_congr fun x _ => ?_
      by_cases hx : key x = k' <;> simp [hx]
      omega
    rw [List.flatMap_cons, List.flatMap_congr hother,
      ih hkeys (ho.sublist List.filter_sublist) fun x hx => ?_, filter_append_filter_ne ho hmin]
    obtain ⟨hx, hne⟩ := List.mem_filter.mp hx
    exact (List.mem_cons.mp (hmem x hx)).resolve_left (by simpa using hne)

/-- Neighbours of one key belong together: there is one group for each key, in the order of the
keys. -/
theorem splitBy_key (hkeys : keys.Pairwise (· < ·))
    (ho : entries.Pairwise fun x y => key x ≤ key y)
    (hmem : ∀ k, k ∈ keys ↔ ∃ x ∈ entries, key x = k) :
    entries.splitBy (fun x y => key x = key y) = keys.map fun k => entries.filter (key · = k) := by
  have hflat : (keys.map fun k => entries.filter (key · = k)).flatten = entries := by
    rw [← List.flatMap_def]
    exact flatMap_filter_key hkeys ho fun x hx => (hmem _).mpr ⟨x, hx, rfl⟩
  have hne : ∀ k ∈ keys, entries.filter (key · = k) ≠ [] := by
    intro k hk
    obtain ⟨x, hx, hkx⟩ := (hmem k).mp hk
    exact List.ne_nil_of_mem (List.mem_filter.mpr ⟨hx, by simpa using hkx⟩)
  have hsplit := List.splitBy_flatten (r := fun x y => key x = key y)
    (l := keys.map fun k => entries.filter (key · = k)) ?_ ?_ ?_
  · rwa [hflat] at hsplit
  · intro hnil
    obtain ⟨k, hk, hkn⟩ := List.mem_map.mp hnil
    exact hne k hk hkn
  · intro group hgroup
    obtain ⟨k, -, rfl⟩ := List.mem_map.mp hgroup
    refine List.Pairwise.isChain (List.pairwise_of_forall_mem_list fun x hx y hy => ?_)
    have hkx := (List.mem_filter.mp hx).2
    have hky := (List.mem_filter.mp hy).2
    simp_all
  · refine List.Pairwise.isChain (List.pairwise_map.mpr (hkeys.imp_of_mem fun hk hk' hlt => ?_))
    refine ⟨hne _ hk, hne _ hk', ?_⟩
    have hx := (List.mem_filter.mp (List.getLast_mem (hne _ hk))).2
    have hy := (List.mem_filter.mp (List.head_mem (hne _ hk'))).2
    simp only [decide_eq_true_iff, decide_eq_false_iff_not] at hx hy ⊢
    omega

end Grouping

/-! ## The candles that ticks make up -/

namespace Aggregator

/-- The candles that ticks make up: those that later buckets close, in their order, and behind them
the open one. -/
def candles (a : Aggregator) : List Tick → Except Fault (List Candle)
  | [] => .ok a.current.toList
  | t :: ticks =>
    match a.apply t with
    | .ok (next, some (.opened _)) => (next.candles ticks).map (next.lastClosed.toList ++ ·)
    | .ok (next, _) => next.candles ticks
    | .error fault => .error fault

variable {s : Selection} {earlier ticks : List Tick}

theorem dropLast_append_getLast? (series : List Candle) :
    series.dropLast ++ series.getLast?.toList = series := by
  rcases series.eq_nil_or_concat with rfl | ⟨front, last, rfl⟩
  · rfl
  · simp

/-- The candles that an aggregator goes on to make up are the live ones, from the open one on. -/
theorem candles_reference (hfit : VolumesFit s (earlier ++ ticks)) :
    ∃ rest, (reference s earlier).candles ticks = .ok rest ∧
      liveCandles s (earlier ++ ticks) = (liveCandles s earlier).dropLast ++ rest := by
  induction ticks generalizing earlier with
  | nil =>
    refine ⟨_, rfl, ?_⟩
    rw [List.append_nil]
    exact (dropLast_append_getLast? _).symm
  | cons t ticks ih =>
    rw [show earlier ++ t :: ticks = (earlier ++ [t]) ++ ticks by simp] at hfit ⊢
    have hnext := hfit.before
    obtain ⟨rest, hrest, hlive⟩ := ih hfit
    rw [candles, apply_reference hnext.before, if_pos hnext]
    obtain ⟨hanswer, hnot⟩ | ⟨c, hanswer, hopens⟩ | ⟨front, old, c, hanswer, hupdates⟩ :=
      answer_cases hnext
    · rw [liveCandles_of_not hnot] at hlive
      exact ⟨rest, by rw [hanswer]; exact hrest, hlive⟩
    · have hclosed : (reference s (earlier ++ [t])).lastClosed =
          (liveCandles s earlier).getLast? := by
        rw [reference, hopens.live, List.dropLast_concat]
      refine ⟨(liveCandles s earlier).getLast?.toList ++ rest, ?_, ?_⟩
      · rw [hanswer]
        simp only [hrest, Except.map, hclosed]
      · rw [hlive, hopens.live, List.dropLast_concat, ← List.append_assoc, dropLast_append_getLast?]
    · refine ⟨rest, by rw [hanswer]; exact hrest, ?_⟩
      rw [hlive, hupdates.live, hupdates.before, List.dropLast_concat, List.dropLast_concat]

/-- Ticks make up the live candles. -/
theorem candles_empty (hfit : VolumesFit s ticks) :
    (empty s.symbol s.timeframe).candles ticks = .ok (liveCandles s ticks) := by
  obtain ⟨rest, hrest, hlive⟩ := @candles_reference s [] ticks hfit
  obtain rfl : liveCandles s ticks = rest := hlive
  exact hrest

end Aggregator

/-! ## Ticks in the order of their times -/

/-- No tick is of an earlier second than the one before it. -/
def InOrder (ticks : List Tick) : Prop := ticks.Pairwise fun t u => t.time.seconds ≤ u.time.seconds

instance (ticks : List Tick) : Decidable (InOrder ticks) := by unfold InOrder; infer_instance

variable {s : Selection} {f g : Timeframe} {ticks : List Tick} {b : Int} {c : Candle}

/-- Ticks in the order of their times do not fall behind, whatever the timeframe. -/
theorem accepted_eq_self (hs : ∀ t ∈ ticks, t.symbol = s.symbol) (ho : InOrder ticks) :
    accepted s ticks = ticks := by
  induction ticks using List.reverseRecOn with
  | nil => rfl
  | append_singleton ticks t ih =>
    obtain ⟨hbefore, -, hlast⟩ := List.pairwise_append.mp ho
    have ht : t.Accepted s ticks := by
      refine ⟨hs t (List.mem_append_right _ List.mem_cons_self), fun u hu _ => ?_⟩
      exact s.timeframe.bucketStart_mono (hlast u hu t List.mem_cons_self)
    rw [accepted_concat, if_pos ht, ih (fun u hu => hs u (List.mem_append_left _ hu)) hbefore]

theorem acceptedIn_eq_filter (hs : ∀ t ∈ ticks, t.symbol = s.symbol) (ho : InOrder ticks) :
    acceptedIn s b ticks = ticks.filter fun t => t.bucket s.timeframe = b := by
  rw [acceptedIn, accepted_eq_self hs ho]

/-- The volume of each bucket is the sum of the sizes as numbers: none is too large, and none had to
be rounded. -/
def VolumesExact (s : Selection) (ticks : List Tick) : Prop :=
  ∀ b ∈ liveBuckets s ticks,
    (Decimal.total? ((acceptedIn s b ticks).map Tick.size)).map Decimal.toRat =
      some ((acceptedIn s b ticks).map fun t => t.size.toRat).sum

instance (s : Selection) (ticks : List Tick) : Decidable (VolumesExact s ticks) := by
  unfold VolumesExact; infer_instance

theorem VolumesExact.fit (h : VolumesExact s ticks) : VolumesFit s ticks := by
  refine volumesFit_iff.mpr fun b hb => ?_
  have hsum := congrArg Option.isSome (h b hb)
  rwa [Option.isSome_map] at hsum

theorem VolumesExact.volume_eq (h : VolumesExact s ticks) (hc : candleAt? s ticks b = some c) :
    c.volume.toRat = ((acceptedIn s b ticks).map fun t => t.size.toRat).sum := by
  have hsum := h b (mem_liveBuckets_of_candleAt? hc)
  rw [(Candle.aggregates_of_ofTicks? hc).volume_eq] at hsum
  exact Option.some.inj hsum

/-! ## Groups of candles -/

/-- The groups of neighbouring candles that lie in one bucket of a timeframe. -/
def Series.groups (f : Timeframe) (series : List Candle) : List (List Candle) :=
  series.splitBy fun c d => f.bucketStart c.bucketStart = f.bucketStart d.bucketStart

/-- The candle rolls up the candles of a group, which all lie in its bucket: it opens with the first
one and closes with the last, its high and its low are their greatest high and their smallest low,
and its volume is the sum of theirs. All of this is said of numbers, not of how they are written. -/
structure Candle.RollsUp (f : Timeframe) (group : List Candle) (c : Candle) : Prop where
  bucket_eq : ∀ d ∈ group, f.bucketStart d.bucketStart = c.bucketStart
  openPrice_eq : group.head?.map (·.openPrice.toRat) = some c.openPrice.toRat
  high_mem : c.high.toRat ∈ group.map (·.high.toRat)
  le_high : ∀ d ∈ group, d.high.toRat ≤ c.high.toRat
  low_mem : c.low.toRat ∈ group.map (·.low.toRat)
  low_le : ∀ d ∈ group, c.low.toRat ≤ d.low.toRat
  close_eq : group.getLast?.map (·.close.toRat) = some c.close.toRat
  volume_eq : c.volume.toRat = (group.map (·.volume.toRat)).sum

namespace Candle

variable {group : List Candle} {part : Candle → List Tick} {d : Candle}

/-- The first trade of all is the first one of the first part. -/
theorem Aggregates.openPrice_eq_head (hparts : ∀ d ∈ group, d.Aggregates d.bucketStart (part d))
    (hall : c.Aggregates b (group.flatMap part)) (hne : group ≠ []) :
    group.head?.map (·.openPrice.toRat) = some c.openPrice.toRat := by
  obtain ⟨d, rest, rfl⟩ := List.exists_cons_of_ne_nil hne
  obtain ⟨first, hfirst, hopen⟩ :=
    Option.map_eq_some_iff.mp (hparts d List.mem_cons_self).openPrice_eq
  have hopen' := hall.openPrice_eq
  rw [List.flatMap_cons, List.head?_append, hfirst, Option.some_or, Option.map_some, hopen]
    at hopen'
  rw [List.head?_cons, Option.map_some, Option.some.inj hopen']

/-- The last trade of all is the last one of the last part. -/
theorem Aggregates.close_eq_getLast (hparts : ∀ d ∈ group, d.Aggregates d.bucketStart (part d))
    (hall : c.Aggregates b (group.flatMap part)) (hne : group ≠ []) :
    group.getLast?.map (·.close.toRat) = some c.close.toRat := by
  obtain ⟨front, d, rfl⟩ := (List.eq_nil_or_concat group).resolve_left hne
  obtain ⟨last, hlast, hclose⟩ := Option.map_eq_some_iff.mp (hparts d (by simp)).close_eq
  have hclose' := hall.close_eq
  rw [List.concat_eq_append, List.flatMap_append, List.flatMap_singleton, List.getLast?_append,
    hlast, Option.some_or, Option.map_some, hclose] at hclose'
  rw [List.concat_eq_append, List.getLast?_concat, Option.map_some, Option.some.inj hclose']

/-- The extreme price of a part is a price of all ticks, and that of all is a price of some part. -/
theorem extreme_flatMap (r : Decimal → Decimal → Prop) (extreme : Candle → Decimal)
    (hparts : ∀ d ∈ group,
      extreme d ∈ (part d).map Tick.price ∧ ∀ t ∈ part d, r t.price (extreme d))
    (hmem : extreme c ∈ (group.flatMap part).map Tick.price)
    (hall : ∀ t ∈ group.flatMap part, r t.price (extreme c)) :
    (∀ d ∈ group, r (extreme d) (extreme c)) ∧ ∃ d ∈ group, r (extreme c) (extreme d) := by
  constructor
  · intro d hd
    obtain ⟨t, ht, heq⟩ := List.mem_map.mp (hparts d hd).1
    exact heq ▸ hall t (List.mem_flatMap.mpr ⟨d, hd, ht⟩)
  · obtain ⟨t, ht, heq⟩ := List.mem_map.mp hmem
    obtain ⟨d, hd, htd⟩ := List.mem_flatMap.mp ht
    exact ⟨d, hd, heq ▸ (hparts d hd).2 t htd⟩

/-- The candle of all ticks rolls up the candles of their parts. -/
theorem Aggregates.rollsUp (hb : ∀ d ∈ group, f.bucketStart d.bucketStart = c.bucketStart)
    (hparts : ∀ d ∈ group, d.Aggregates d.bucketStart (part d))
    (hall : c.Aggregates b (group.flatMap part))
    (hvolumes : ∀ d ∈ group, d.volume.toRat = ((part d).map fun t => t.size.toRat).sum)
    (hvolume : c.volume.toRat = ((group.flatMap part).map fun t => t.size.toRat).sum) :
    c.RollsUp f group := by
  have hne : group ≠ [] := by
    rintro rfl
    exact nomatch hall.openPrice_eq
  obtain ⟨hhigh, top, htop, htop'⟩ := extreme_flatMap (· ≤ ·) high
    (fun d hd => ⟨(hparts d hd).high_mem, (hparts d hd).le_high⟩) hall.high_mem hall.le_high
  obtain ⟨hlow, bottom, hbottom, hbottom'⟩ := extreme_flatMap (· ≥ ·) low
    (fun d hd => ⟨(hparts d hd).low_mem, (hparts d hd).low_le⟩) hall.low_mem hall.low_le
  simp only [ge_iff_le, Decimal.le_iff_toRat_le] at hhigh htop' hlow hbottom'
  refine
    { bucket_eq := hb
      openPrice_eq := Aggregates.openPrice_eq_head hparts hall hne
      high_mem := List.mem_map.mpr ⟨top, htop, le_antisymm (hhigh top htop) htop'⟩
      le_high := hhigh
      low_mem := List.mem_map.mpr ⟨bottom, hbottom, le_antisymm hbottom' (hlow bottom hbottom)⟩
      low_le := hlow
      close_eq := Aggregates.close_eq_getLast hparts hall hne
      volume_eq := ?_ }
  rw [hvolume, List.map_flatMap, List.flatMap_def, List.sum_flatten, List.map_map]
  exact congrArg List.sum (List.map_congr_left fun d hd => (hvolumes d hd).symm)

end Candle

/-! ## Two timeframes -/

variable {symbol : Symbol}

/-- The bucket of the longer timeframe can be seen from that of the shorter one. -/
theorem Tick.bucketStart_bucket (hfg : f.seconds ≤ g.seconds) (t : Tick) :
    g.bucketStart (t.bucket f) = t.bucket g := Timeframe.bucketStart_bucketStart hfg _

theorem mem_liveBuckets_iff (hs : ∀ t ∈ ticks, t.symbol = s.symbol) (ho : InOrder ticks) :
    b ∈ liveBuckets s ticks ↔ ∃ t ∈ ticks, t.bucket s.timeframe = b := by
  rw [mem_liveBuckets, acceptedIn_eq_filter hs ho, ne_eq, List.filter_eq_nil_iff]
  simp

/-- The buckets of the longer timeframe are those in which buckets of the shorter one lie. -/
theorem mem_liveBuckets_coarse (hfg : f.seconds ≤ g.seconds) (hs : ∀ t ∈ ticks, t.symbol = symbol)
    (ho : InOrder ticks) :
    b ∈ liveBuckets ⟨symbol, g⟩ ticks ↔
      ∃ b' ∈ liveBuckets ⟨symbol, f⟩ ticks, g.bucketStart b' = b := by
  rw [mem_liveBuckets_iff hs ho]
  constructor
  · rintro ⟨t, ht, rfl⟩
    exact ⟨t.bucket f, (mem_liveBuckets_iff hs ho).mpr ⟨t, ht, rfl⟩, t.bucketStart_bucket hfg⟩
  · rintro ⟨b', hb', rfl⟩
    obtain ⟨t, ht, rfl⟩ := (mem_liveBuckets_iff hs ho).mp hb'
    exact ⟨t, ht, (t.bucketStart_bucket hfg).symm⟩

/-- The ticks of a bucket are those of the shorter buckets that lie in it, one after another. -/
theorem acceptedIn_coarse (hfg : f.seconds ≤ g.seconds) (hs : ∀ t ∈ ticks, t.symbol = symbol)
    (ho : InOrder ticks) :
    (((liveBuckets ⟨symbol, f⟩ ticks).filter (g.bucketStart · = b)).flatMap
        fun b' => acceptedIn ⟨symbol, f⟩ b' ticks) =
      acceptedIn ⟨symbol, g⟩ b ticks := by
  have hwithin : ∀ b' ∈ (liveBuckets ⟨symbol, f⟩ ticks).filter (g.bucketStart · = b),
      acceptedIn ⟨symbol, f⟩ b' ticks =
        (acceptedIn ⟨symbol, g⟩ b ticks).filter fun t => t.bucket f = b' := by
    intro b' hb'
    have hb := (List.mem_filter.mp hb').2
    rw [acceptedIn_eq_filter hs ho, acceptedIn_eq_filter hs ho, List.filter_filter]
    refine List.filter_congr fun t _ => ?_
    by_cases ht : t.bucket f = b'
    · simp [ht, ← t.bucketStart_bucket hfg, of_decide_eq_true hb]
    · simp [ht]
  rw [List.flatMap_congr hwithin]
  refine flatMap_filter_key (ascending_liveBuckets.sublist List.filter_sublist) ?_ fun t ht => ?_
  · rw [acceptedIn_eq_filter hs ho]
    exact (ho.imp fun h => f.bucketStart_mono h).sublist List.filter_sublist
  · obtain ⟨ht, hb⟩ := mem_acceptedIn.mp ht
    rw [accepted_eq_self hs ho] at ht
    refine List.mem_filter.mpr ⟨(mem_liveBuckets_iff hs ho).mpr ⟨t, ht, rfl⟩, ?_⟩
    rw [decide_eq_true_iff, t.bucketStart_bucket hfg, hb]

/-- The candles of the shorter timeframe come in one group for each candle of the longer one. -/
theorem groups_liveCandles (hfg : f.seconds ≤ g.seconds) (hs : ∀ t ∈ ticks, t.symbol = symbol)
    (ho : InOrder ticks) (hf : VolumesFit ⟨symbol, f⟩ ticks) (hg : VolumesFit ⟨symbol, g⟩ ticks) :
    Series.groups g (liveCandles ⟨symbol, f⟩ ticks) =
      (liveCandles ⟨symbol, g⟩ ticks).map fun c =>
        (liveCandles ⟨symbol, f⟩ ticks).filter fun d =>
          g.bucketStart d.bucketStart = c.bucketStart := by
  have hasc : (liveCandles ⟨symbol, f⟩ ticks).Pairwise fun c d => c.bucketStart < d.bucketStart :=
    ascending_liveCandles
  have hbuckets : ∀ b, b ∈ liveBuckets ⟨symbol, g⟩ ticks ↔
      ∃ d ∈ liveCandles ⟨symbol, f⟩ ticks, g.bucketStart d.bucketStart = b := by
    intro b
    rw [mem_liveBuckets_coarse hfg hs ho, ← map_bucketStart_liveCandles hf]
    simp only [List.mem_map, exists_exists_and_eq_and]
  rw [Series.groups, splitBy_key ascending_liveBuckets
    (hasc.imp fun h => g.bucketStart_mono (Int.le_of_lt h)) hbuckets,
    ← map_bucketStart_liveCandles hg, List.map_map]
  rfl

/-- **A coarser timeframe rolls up a finer one.** Ticks of one symbol come in the order of their
times, and no volume has to be rounded. Then the candles that they make up in a timeframe, taken
together by the buckets of a timeframe that is not shorter, are one group for each candle that they
make up there, in the same order, and each of these candles rolls up its group. No two of them are
of one bucket. -/
theorem coarse_rolls_up (symbol : Symbol) (f g : Timeframe) (hfg : f.seconds ≤ g.seconds)
    (ticks : List Tick) (hs : ∀ t ∈ ticks, t.symbol = symbol) (ho : InOrder ticks)
    (hf : VolumesExact ⟨symbol, f⟩ ticks) (hg : VolumesExact ⟨symbol, g⟩ ticks) :
    ∃ fine coarse, (Aggregator.empty symbol f).candles ticks = .ok fine ∧
      (Aggregator.empty symbol g).candles ticks = .ok coarse ∧ Series.Ascending coarse ∧
      List.Forall₂ (fun group c => c.RollsUp g group) (Series.groups g fine) coarse := by
  refine ⟨_, _, Aggregator.candles_empty hf.fit, Aggregator.candles_empty hg.fit,
    ascending_liveCandles, ?_⟩
  rw [groups_liveCandles hfg hs ho hf.fit hg.fit, List.forall₂_map_left_iff, List.forall₂_same]
  intro c hc
  have hc' := mem_liveCandles.mp hc
  have hgroup : (((liveCandles ⟨symbol, f⟩ ticks).filter fun d =>
      g.bucketStart d.bucketStart = c.bucketStart).flatMap
        fun d => acceptedIn ⟨symbol, f⟩ d.bucketStart ticks) =
      acceptedIn ⟨symbol, g⟩ c.bucketStart ticks := by
    rw [← acceptedIn_coarse hfg hs ho, ← map_bucketStart_liveCandles hf.fit, List.filter_map,
      List.flatMap_map]
    rfl
  have hfine : ∀ d ∈ (liveCandles ⟨symbol, f⟩ ticks).filter fun d =>
      g.bucketStart d.bucketStart = c.bucketStart,
      g.bucketStart d.bucketStart = c.bucketStart ∧
        candleAt? ⟨symbol, f⟩ ticks d.bucketStart = some d := by
    intro d hd
    obtain ⟨hd, hb⟩ := List.mem_filter.mp hd
    exact ⟨of_decide_eq_true hb, mem_liveCandles.mp hd⟩
  exact Candle.Aggregates.rollsUp (fun d hd => (hfine d hd).1)
    (fun d hd => Candle.aggregates_of_ofTicks? (hfine d hd).2)
    (hgroup.symm ▸ Candle.aggregates_of_ofTicks? hc')
    (fun d hd => hf.volume_eq (hfine d hd).2)
    (hgroup.symm ▸ hg.volume_eq hc')

/-- Purchases of growing size, two of them before 1970: six candles by the minute, three by five
minutes. -/
def scattered : List Tick :=
  [(-61, 1), (-1, 2), (0, 3), (59, 4), (60, 5), (240, 6), (301, 7)].filterMap fun (second, size) =>
    (Instant.mk? second 0).map fun time => { Aggregator.purchase size 0 with time }

theorem coarse_rolls_up_scattered :
    Timeframe.m1.seconds ≤ Timeframe.m5.seconds ∧ scattered.length = 7 ∧ InOrder scattered ∧
      ∃ fine coarse,
        (Aggregator.empty ⟨"BTC-USD"⟩ .m1).candles scattered = .ok fine ∧
        (Aggregator.empty ⟨"BTC-USD"⟩ .m5).candles scattered = .ok coarse ∧
        Series.Ascending coarse ∧
        List.Forall₂ (fun group c => c.RollsUp .m5 group) (Series.groups .m5 fine) coarse := by
  refine ⟨by decide, by decide +kernel, by decide +kernel, ?_⟩
  exact coarse_rolls_up ⟨"BTC-USD"⟩ .m1 .m5 (by decide) scattered (by decide +kernel)
    (by decide +kernel) (by decide +kernel) (by decide +kernel)

end TickChart
