import TickChart.Backend.History
import TickChart.Proofs.Series

/-!
# Rows of a history

A backend delivers rows in any order, of which some cannot be read, some hold a candle that is not
valid, and some are of the same bucket. What comes of them is the last valid candle of each bucket,
whatever stands between.

* `RowHolds`: a row holds a valid candle.
* `Series.rowsIn`: the rows of a bucket.
* `Series.mem_ofRows`: the candles of a series of rows.
* `Series.ofRows_of_not`, `Series.ofRows_congr`: rows that do not matter, and orders that do not.
* `Series.Normalised`, `history_of_rows`: all of it, for every list of rows.
-/

namespace TickChart

open Json

/-- The row holds the candle, and the candle is valid. -/
def RowHolds (f : Timeframe) (row : Value) (c : Candle) : Prop :=
  Candle.ofRow? f row = some c ∧ c.Valid

variable {f : Timeframe} {row : Value} {rows others before after : List Value} {c : Candle}

/-- A row is of the bucket that its instant lies in. -/
theorem Candle.dvd_of_ofRow? (h : Candle.ofRow? f row = some c) :
    (f.seconds : Int) ∣ c.bucketStart := by
  simp only [Candle.ofRow?, bind, Option.bind_eq_some_iff, Option.some.injEq] at h
  obtain ⟨_, -, _, -, _, -, _, -, _, -, rfl⟩ := h
  exact Int.dvd_mul_left _ _

namespace Series

/-- The candle of a row, if it is valid. -/
def validOfRow? (f : Timeframe) (row : Value) : Option Candle :=
  (Candle.ofRow? f row).filter (·.Valid)

theorem validOfRow?_eq_some_iff : validOfRow? f row = some c ↔ RowHolds f row c := by
  simp [validOfRow?, RowHolds, Option.filter_eq_some_iff]

theorem validOfRow?_eq_none (h : ∀ c, ¬ RowHolds f row c) : validOfRow? f row = none :=
  Option.eq_none_iff_forall_ne_some.mpr fun c hc => h c (validOfRow?_eq_some_iff.mp hc)

theorem ofRows_eq : ofRows f rows = ofCandles (rows.filterMap (validOfRow? f)) := by
  rw [ofRows, List.filter_filterMap]
  rfl

/-- The rows whose candle is of the bucket, be it valid or not. -/
def rowsIn (f : Timeframe) (bucket : Int) (rows : List Value) : List Value :=
  rows.filter fun row => (Candle.ofRow? f row).any (·.bucketStart = bucket)

/-- The valid candles of a bucket come of its rows. -/
theorem filter_validOfRow? (b : Int) :
    (rows.filterMap (validOfRow? f)).filter (·.bucketStart = b) =
      (rowsIn f b rows).filterMap (validOfRow? f) := by
  rw [List.filter_filterMap, rowsIn, List.filterMap_filter]
  congr 1
  funext row
  unfold validOfRow?
  cases Candle.ofRow? f row with
  | none => rfl
  | some c =>
    by_cases hb : c.bucketStart = b <;> by_cases hv : c.Valid <;>
      simp [Option.filter_some, hb, hv]

/-- A candle of the series is that of a row behind which there is no valid one of its bucket. -/
theorem mem_ofRows : c ∈ ofRows f rows ↔ ∃ before row after, rows = before ++ row :: after ∧
    RowHolds f row c ∧
      ∀ later ∈ after, ∀ d, RowHolds f later d → d.bucketStart ≠ c.bucketStart := by
  simp only [ofRows_eq, ofCandles, Keyed.mem_ofList_filterMap, validOfRow?_eq_some_iff]

theorem rowHolds_of_mem (h : c ∈ ofRows f rows) : ∃ row ∈ rows, RowHolds f row c := by
  obtain ⟨before, row, after, rfl, hrow, -⟩ := mem_ofRows.mp h
  exact ⟨row, by simp, hrow⟩

/-- A valid row leaves a candle of its bucket, its own or that of a later row. -/
theorem exists_mem_ofRows (hmem : row ∈ rows) (h : RowHolds f row c) :
    ∃ d ∈ ofRows f rows, d.bucketStart = c.bucketStart := by
  have hne : (rows.filterMap (validOfRow? f)).filter (·.bucketStart = c.bucketStart) ≠ [] := by
    have hc : c ∈ rows.filterMap (validOfRow? f) :=
      List.mem_filterMap.mpr ⟨row, hmem, validOfRow?_eq_some_iff.mpr h⟩
    exact List.ne_nil_of_mem (List.mem_filter.mpr ⟨hc, by simp⟩)
  have hfound : Keyed.get? Candle.bucketStart c.bucketStart
      (Keyed.ofList Candle.bucketStart (rows.filterMap (validOfRow? f))) =
        ((rows.filterMap (validOfRow? f)).filter (·.bucketStart = c.bucketStart)).getLast? :=
    Keyed.get?_ofList
  rw [List.getLast?_eq_some_getLast hne] at hfound
  refine ⟨_, ?_, (Keyed.ascending_ofList.get?_eq_some_iff.mp hfound).2⟩
  rw [ofRows_eq]
  exact (Keyed.ascending_ofList.get?_eq_some_iff.mp hfound).1

/-- A row without a valid candle might as well not be there. -/
theorem ofRows_of_not (h : ∀ c, ¬ RowHolds f row c) :
    ofRows f (before ++ row :: after) = ofRows f (before ++ after) := by
  rw [ofRows_eq, ofRows_eq, List.filterMap_append, List.filterMap_append,
    List.filterMap_cons_none (validOfRow?_eq_none h)]

/-- The order of rows of different buckets does not matter. -/
theorem ofRows_congr (h : ∀ b, rowsIn f b others = rowsIn f b rows) :
    ofRows f others = ofRows f rows := by
  rw [ofRows_eq, ofRows_eq]
  exact Keyed.ofList_congr fun b => by rw [filter_validOfRow?, filter_validOfRow?, h]

/-- The series ascends, its candles are valid and aligned, and they are those of the last valid row
of each bucket. -/
structure Normalised (f : Timeframe) (rows : List Value) (series : List Candle) : Prop where
  ascending : Ascending series
  valid : ∀ c ∈ series, c.Valid
  aligned : ∀ c ∈ series, (f.seconds : Int) ∣ c.bucketStart
  /-- Its buckets are those of the valid rows. -/
  buckets : ∀ b, (∃ c ∈ series, c.bucketStart = b) ↔
    ∃ row ∈ rows, ∃ c, RowHolds f row c ∧ c.bucketStart = b
  /-- Its candles are those of the last valid row of each bucket. -/
  last : ∀ c, c ∈ series ↔ ∃ before row after, rows = before ++ row :: after ∧ RowHolds f row c ∧
    ∀ later ∈ after, ∀ d, RowHolds f later d → d.bucketStart ≠ c.bucketStart

theorem normalised_ofRows (f : Timeframe) (rows : List Value) :
    Normalised f rows (ofRows f rows) where
  ascending := ascending_ofCandles _
  valid c hc := by
    obtain ⟨row, -, hrow⟩ := rowHolds_of_mem hc
    exact hrow.2
  aligned c hc := by
    obtain ⟨row, -, hrow⟩ := rowHolds_of_mem hc
    exact Candle.dvd_of_ofRow? hrow.1
  buckets b := by
    constructor
    · rintro ⟨c, hc, hb⟩
      obtain ⟨row, hmem, hrow⟩ := rowHolds_of_mem hc
      exact ⟨row, hmem, c, hrow, hb⟩
    · rintro ⟨row, hmem, c, hrow, rfl⟩
      exact exists_mem_ofRows hmem hrow
  last c := mem_ofRows

end Series

namespace History

theorem ofSeries_eq_noData_iff {series : List Candle} :
    ofSeries series = .noData ↔ series = [] := by
  unfold ofSeries
  cases series <;> simp

theorem ofSeries_of_mem {series : List Candle} (h : c ∈ series) :
    ofSeries series = .loaded series := by
  unfold ofSeries
  cases series with
  | nil => cases h
  | cons d series => rfl

end History

open Series in
/-- **What comes of rows.** There is no history exactly if no row holds a valid candle. Otherwise
the history is a series: of each bucket of a valid row the candle of the last such row, ascending.
A row without a valid candle changes nothing, wherever it stands, and neither does any other order
of the rows that leaves the rows of each bucket in theirs. -/
theorem history_of_rows (f : Timeframe) (rows : List Value) :
    (History.ofSeries (ofRows f rows) = .noData ↔ ∀ row ∈ rows, ∀ c, ¬ RowHolds f row c) ∧
      ((∃ row ∈ rows, ∃ c, RowHolds f row c) →
        ∃ series, History.ofSeries (ofRows f rows) = .loaded series ∧ Normalised f rows series) ∧
      (∀ before row after, rows = before ++ row :: after → (∀ c, ¬ RowHolds f row c) →
        History.ofSeries (ofRows f (before ++ after)) = History.ofSeries (ofRows f rows)) ∧
      ∀ others, (∀ b, rowsIn f b others = rowsIn f b rows) →
        History.ofSeries (ofRows f others) = History.ofSeries (ofRows f rows) := by
  refine ⟨?_, ?_, ?_, ?_⟩
  · rw [History.ofSeries_eq_noData_iff, List.eq_nil_iff_forall_not_mem]
    constructor
    · intro hnone row hmem c hrow
      obtain ⟨d, hd, -⟩ := exists_mem_ofRows hmem hrow
      exact hnone d hd
    · intro hnone c hc
      obtain ⟨row, hmem, hrow⟩ := rowHolds_of_mem hc
      exact hnone row hmem c hrow
  · rintro ⟨row, hmem, c, hrow⟩
    obtain ⟨d, hd, -⟩ := exists_mem_ofRows hmem hrow
    exact ⟨_, History.ofSeries_of_mem hd, normalised_ofRows f rows⟩
  · rintro before row after rfl hnone
    rw [ofRows_of_not hnone]
  · intro others hsame
    rw [ofRows_congr hsame]

open Series in
/-- Two rows of one bucket, and behind them one whose low is above its high and one that holds
nothing. -/
theorem history_of_rows_mixed :
    let number (n : Int) : Value := .number (.int n)
    let row (price low : Int) : Value :=
      .object [("timestamp", number 65), ("open", number price), ("high", number price),
        ("low", number low), ("close", number price)]
    let rows := [row 2 1, row 3 1, row 4 5, .null]
    (∃ row ∈ rows, ∃ c, RowHolds .m1 row c) ∧
      ∃ series, History.ofSeries (ofRows .m1 rows) = .loaded series ∧
        Normalised .m1 rows series := by
  intro number row rows
  have hvalid : ∃ row ∈ rows, ∃ c, RowHolds .m1 row c :=
    ⟨row 2 1, List.mem_cons_self, _, rfl, by decide +kernel⟩
  exact ⟨hvalid, (history_of_rows .m1 rows).2.1 hvalid⟩

end TickChart
