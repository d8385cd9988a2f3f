import Mathlib.Data.Int.Order.Basic
import TickChart.Market.Candle
import TickChart.Proofs.Keyed

/-!
# Series of candles

A series is a table of candles by their buckets.

* `ascending_ofCandles`: candles in any order, with any buckets twice, make a series.
* `lastBucket?_concat`, `lastBucket?_eq_some_iff`: the bucket of the last candle.
* `Ascending.le_lastBucket`: no candle of a series is of a later bucket than the last one.
* `Ascending.concat`, `Ascending.replaceLast`: the two changes that keep a series one.
-/

namespace TickChart.Series

variable {series rest : List Candle} {c d : Candle} {b : Int}

@[simp] theorem ascending_nil : Ascending [] := Keyed.ascending_nil

theorem ascending_concat :
    Ascending (series ++ [c]) ↔ Ascending series ∧ ∀ d ∈ series, d.bucketStart < c.bucketStart :=
  Keyed.ascending_concat

theorem ascending_ofCandles (candles : List Candle) : Ascending (ofCandles candles) :=
  Keyed.ascending_ofList

@[simp] theorem lastBucket?_concat : lastBucket? (series ++ [c]) = some c.bucketStart := by
  simp [lastBucket?]

theorem lastBucket?_eq_none_iff : lastBucket? series = none ↔ series = [] := by
  simp [lastBucket?]

theorem lastBucket?_eq_some_iff :
    lastBucket? series = some b ↔ ∃ front c, series = front ++ [c] ∧ c.bucketStart = b := by
  constructor
  · intro h
    obtain ⟨c, hc, rfl⟩ := Option.map_eq_some_iff.mp h
    obtain ⟨front, rfl⟩ := List.getLast?_eq_some_iff.mp hc
    exact ⟨front, c, rfl, rfl⟩
  · rintro ⟨front, c, rfl, rfl⟩
    exact lastBucket?_concat

/-- The last candle of a series is of its latest bucket. -/
theorem Ascending.le_lastBucket (h : Ascending series) (hb : lastBucket? series = some b)
    (hc : c ∈ series) : c.bucketStart ≤ b := by
  obtain ⟨front, last, rfl, rfl⟩ := lastBucket?_eq_some_iff.mp hb
  rcases List.mem_append.mp hc with hc | hc
  · exact Int.le_of_lt ((ascending_concat.mp h).2 c hc)
  · rw [List.mem_singleton.mp hc]

/-- A candle of a later bucket than the last one may follow. -/
theorem Ascending.concat (h : Ascending series)
    (hc : ∀ b, lastBucket? series = some b → b < c.bucketStart) : Ascending (series ++ [c]) := by
  refine ascending_concat.mpr ⟨h, fun d hd => ?_⟩
  cases hb : lastBucket? series with
  | none => rw [lastBucket?_eq_none_iff.mp hb] at hd; cases hd
  | some b => exact Int.lt_of_le_of_lt (h.le_lastBucket hb hd) (hc b hb)

/-- Another candle of its bucket may take the place of the last one. -/
theorem Ascending.replaceLast (h : Ascending (rest ++ [c])) (hb : d.bucketStart = c.bucketStart) :
    Ascending (rest ++ [d]) := by
  rw [ascending_concat] at h ⊢
  exact ⟨h.1, hb ▸ h.2⟩

end TickChart.Series
