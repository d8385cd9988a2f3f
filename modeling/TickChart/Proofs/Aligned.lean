import TickChart.Proofs.LastWins

/-!
# Overlays along a series

The points at the starts of candles are found by halving the series, line by line. It comes to the
same to look through the series for the time of each row, and to leave out the rows that stand at no
candle before there are any lines.

* `bisect_eq`, `holdsKey_iff`: halving finds a key of an ascending list wherever it stands.
* `Series.StartsAt`: a candle starts at a time.
* `Overlay.aligned_ofPoints`: alignment is the choice of the rows that stand at a candle.
-/

namespace TickChart

/-! ## Bisection -/

section Bisection

variable {keys : Array Int} {k : Int}

theorem lt_of_getElem_lt (h : keys.toList.Pairwise (· < ·)) {i j : Nat} (hi : i < keys.size)
    (hj : j < keys.size) (hlt : keys[i] < keys[j]) : i < j := by
  by_contra hle
  rcases Nat.lt_or_eq_of_le (Nat.not_lt.mp hle) with hji | rfl
  · have hkeys := List.pairwise_iff_getElem.mp h j i (by simpa using hj) (by simpa using hi) hji
    simp only [Array.getElem_toList] at hkeys
    omega
  · omega

/-- A key that stands among the places that are looked at is found. The half that is kept is the one
in which it stands. -/
theorem bisect_eq (h : keys.toList.Pairwise (· < ·)) {i base size : Nat} (hi : i < keys.size)
    (hbase : base ≤ i) (hsize : i < base + size) (htop : base + size ≤ keys.size) :
    bisect keys keys[i] base size = i := by
  fun_induction bisect keys keys[i] base size with
  | case1 base size hle => omega
  | case2 base size hgt half hbelow ih =>
    have hmiddle : base + half < keys.size := by omega
    rw [Array.getD_eq_getD_getElem?, Array.getElem?_eq_getElem hmiddle, Option.getD_some] at hbelow
    have hlt := lt_of_getElem_lt h hi hmiddle hbelow
    exact ih hbase (by omega) (by omega)
  | case3 base size hgt half habove ih =>
    have hmiddle : base + half < keys.size := by omega
    rw [Array.getD_eq_getD_getElem?, Array.getElem?_eq_getElem hmiddle, Option.getD_some] at habove
    have hle : base + half ≤ i := by
      by_contra hlt
      have hkeys := List.pairwise_iff_getElem.mp h i (base + half) (by simpa using hi)
        (by simpa using hmiddle) (by omega)
      simp only [Array.getElem_toList] at hkeys
      omega
    exact ih hle (by omega) (by omega)

theorem holdsKey_iff (h : keys.toList.Pairwise (· < ·)) : holdsKey keys k = true ↔ k ∈ keys := by
  rw [holdsKey, decide_eq_true_iff]
  constructor
  · exact Array.mem_of_getElem?
  · intro hmem
    obtain ⟨i, hi, rfl⟩ := Array.mem_iff_getElem.mp hmem
    rw [bisect_eq h hi (Nat.zero_le i) (by omega) (by omega), Array.getElem?_eq_getElem hi]

end Bisection

/-- A candle of the series starts at the time. -/
def Series.StartsAt (series : List Candle) (time : Int) : Prop :=
  ∃ c ∈ series, c.bucketStart = time

instance (series : List Candle) (time : Int) : Decidable (Series.StartsAt series time) :=
  inferInstanceAs (Decidable (∃ c ∈ series, c.bucketStart = time))

theorem holdsKey_starts {series : List Candle} (h : Series.Ascending series) (time : Int) :
    holdsKey (series.map Candle.bucketStart).toArray time =
      decide (Series.StartsAt series time) := by
  have hkeys : (series.map Candle.bucketStart).Pairwise (· < ·) := List.pairwise_map.mpr h
  have hmem : holdsKey (series.map Candle.bucketStart).toArray time = true ↔
      Series.StartsAt series time := by
    rw [holdsKey_iff hkeys, List.mem_toArray, List.mem_map]
    rfl
  rw [Bool.eq_iff_iff, hmem, decide_eq_true_iff]

namespace Overlay

/-- The lines whose points are chosen by their times, without those that are left empty, are the
lines of the rows chosen by their times. -/
theorem filter_lines (symbol : Symbol) (points : List IndicatorPoint) (q : Int → Bool) :
    ((ofPoints symbol points).lines.map fun l =>
        { l with points := l.points.filter fun p => q p.time }).filter (!·.points.isEmpty) =
      (ofPoints symbol (points.filter fun p => q p.time)).lines := by
  have hlines : (ofPoints symbol points).lines.map (fun l =>
      { l with points := l.points.filter fun p => q p.time }) =
        (namesOf (namedPoints points)).map
          (lineOf ((namedPoints points).filter fun np => q np.2.time)) := by
    rw [ofPoints, List.map_map]
    exact List.map_congr_left fun name _ => (lineOf_filter q).symm
  rw [hlines, ofPoints, namedPoints_filter, namesOf_filter, List.filter_map]
  rfl

/-- **Alignment is the choice of rows.** Along a series, an overlay has the points that stand at the
start of a candle: those of the rows that do, with the last one of each second and without the lines
that have none. Halving the series finds the same starts as looking through it. The last one of each
second is what a stable sort by time and one pass leave of the values of a name. -/
theorem aligned_ofPoints (symbol : Symbol) (points : List IndicatorPoint) (series : List Candle)
    (h : Series.Ascending series) :
    (∀ time, holdsKey (series.map Candle.bucketStart).toArray time = true ↔
        Series.StartsAt series time) ∧
      (ofPoints symbol points).aligned series =
        ofPoints symbol (points.filter fun p => Series.StartsAt series p.time) ∧
      (∀ l ∈ ((ofPoints symbol points).aligned series).lines, l.points ≠ []) ∧
      ∀ l ∈ (ofPoints symbol points).lines, l.points =
        (Keyed.sorted LinePoint.time (pointsNamed (namedPoints points) l.name)).foldl
          (Keyed.place LinePoint.time) [] := by
  refine ⟨fun time => ?_, ?_, fun l hl => ?_, fun l hl => ?_⟩
  · rw [holdsKey_starts h, decide_eq_true_iff]
  · have hlines := filter_lines symbol points (holdsKey (series.map Candle.bucketStart).toArray)
    simp only [holdsKey_starts h] at hlines
    simp only [aligned, holdsKey_starts h]
    rw [hlines]
    rfl
  · have hkept := (List.mem_filter.mp hl).2
    simpa using hkept
  · obtain ⟨name, -, rfl⟩ := exists_of_mem_lines hl
    exact lineOf_eq_pass _ name

/-- Two candles; a row between them, and two rows at the second one. -/
theorem aligned_twoCandles :
    let series := [Candle.openAt 0 .zero .zero, Candle.openAt 60 .zero .zero]
    let points : List IndicatorPoint :=
      [⟨0, [("ema", ⟨1⟩), ("rsi", ⟨2⟩)]⟩, ⟨30, [("vwap", ⟨3⟩)]⟩, ⟨60, [("rsi", ⟨4⟩)]⟩,
        ⟨60, [("rsi", ⟨5⟩)]⟩]
    Series.Ascending series ∧ (ofPoints ⟨"BTC-USD"⟩ points).aligned series =
      ⟨⟨"BTC-USD"⟩, [⟨"ema", [⟨0, ⟨1⟩⟩]⟩, ⟨"rsi", [⟨0, ⟨2⟩⟩, ⟨60, ⟨5⟩⟩]⟩]⟩ := by
  intro series points
  have hseries : Series.Ascending series := by decide
  refine ⟨hseries, ?_⟩
  rw [(aligned_ofPoints ⟨"BTC-USD"⟩ points series hseries).2.1]
  decide

end Overlay

end TickChart
