import TickChart.Indicator.Overlay
import TickChart.Proofs.Lines

/-!
# Indicators of an answer

What a backend answers becomes lines, of which each point can be told from the rows: the last row of
a second that has a finite value under a name counts for it. A row that has none there does not
count, so that it takes no value of an earlier row away. The columns of the candle never matter.

* `IsIndicator`, `FiniteNumber`, `TimeOf`: the fields, the values and the time of a row.
* `RowTells`: a row tells the value of a name at a second.
* `pointOf?_eq_some_iff`: what is read of a row is what it tells.
* `rowsOf`: the rows of an answer. `indicatorPoints_eq`: they are those that are read.
* `AlikeButCandle`: rows that differ at most in the columns of the candle.
* `Overlay.Tells`: the points of an overlay are those that the rows tell, each name and second once.
  `Overlay.overlay_of_answer` proves it of the overlay of every answer.
-/

namespace TickChart

open Json

/-! ## Fields -/

/-- The name is that of a column of the candle, in any case of its letters. -/
def IsCandleColumn (name : String) : Prop :=
  ∃ column ∈ candleKeys, Text.lowerAscii name.toList = column.toList

/-- The name is that of an indicator: of neither the time of a row nor a column of the candle. -/
def IsIndicator (name : String) : Prop :=
  name ≠ "timestamp" ∧ name ≠ "time" ∧ ¬ IsCandleColumn name

theorem isIndicatorKey_iff {name : String} : isIndicatorKey name = true ↔ IsIndicator name := by
  have hcolumns : ∀ column ∈ candleKeys, Text.lowerAscii column.toList = column.toList := by decide
  have hcandle : (candleKeys.any fun k => Text.eqIgnoringCase k.toList name.toList) = true ↔
      IsCandleColumn name := by
    rw [List.any_eq_true]
    refine exists_congr fun column => and_congr_right fun hmem => ?_
    rw [Text.eqIgnoringCase, beq_iff_eq, hcolumns column hmem, eq_comm]
  rw [isIndicatorKey, Bool.and_eq_true, Bool.not_eq_true', Bool.not_eq_true',
    ← Bool.not_eq_true, ← Bool.not_eq_true, hcandle, IsIndicator, ← and_assoc]
  simp [timeKeys]

/-- The value is this finite number, as a number or as a text with blanks around it or without. -/
def FiniteNumber (v : Value) (x : Double) : Prop :=
  x.isFinite ∧ ((∃ n, v = .number n ∧ n.toDouble = x) ∨
    ∃ s, v = .string s ∧ Text.readDouble? (Text.trim s.toList) = some x)

theorem Double.finite?_eq_some_iff {x y : Double} :
    x.finite? = some y ↔ y.isFinite ∧ x = y := by
  unfold Double.finite?
  split
  · next h =>
    rw [Option.some.injEq]
    exact ⟨fun heq => ⟨heq ▸ h, heq⟩, And.right⟩
  · next h =>
    constructor
    · intro heq
      cases heq
    · rintro ⟨hy, rfl⟩
      exact absurd hy h

theorem finite?_eq_some_iff {v : Value} {x : Double} :
    v.finite? = some x ↔ FiniteNumber v x := by
  cases v with
  | number n => simp [Value.finite?, Double.finite?_eq_some_iff, FiniteNumber]
  | string s =>
    simp only [Value.finite?, Option.bind_eq_some_iff, Double.finite?_eq_some_iff, FiniteNumber]
    constructor
    · rintro ⟨y, hy, hfinite, rfl⟩
      exact ⟨hfinite, .inr ⟨s, rfl, hy⟩⟩
    · rintro ⟨hfinite, ⟨n, hn, -⟩ | ⟨s', hs, hx⟩⟩
      · cases hn
      · cases hs
        exact ⟨x, hx, hfinite, rfl⟩
  | null => simp [Value.finite?, FiniteNumber]
  | bool b => simp [Value.finite?, FiniteNumber]
  | array vs => simp [Value.finite?, FiniteNumber]
  | object ms => simp [Value.finite?, FiniteNumber]

/-- The time of a row is this instant: it is what its member `timestamp` says, or, in a row without
one, its member `time`. -/
def TimeOf (row : Value) (i : Instant) : Prop :=
  (∃ v, row.get? "timestamp" = some v ∧ v.instant? = some i) ∨
    row.get? "timestamp" = none ∧ ∃ v, row.get? "time" = some v ∧ v.instant? = some i

theorem rowTime?_eq_some_iff {row : Value} {i : Instant} :
    row.rowTime? = some i ↔ TimeOf row i := by
  unfold Value.rowTime? TimeOf
  cases row.get? "timestamp" <;> simp [Option.bind_eq_some_iff]

/-! ## Rows -/

/-- The row tells the value `x` of a name at a second: its time is in this second, and its member
under the name is an indicator with this finite value. -/
structure RowTells (row : Value) (second : Int) (name : String) (x : Double) : Prop where
  time : ∃ i, TimeOf row i ∧ i.seconds = second
  indicator : IsIndicator name
  value : ∃ v, row.get? name = some v ∧ FiniteNumber v x

variable {row other : Value} {ms others : List (String × Value)} {name : String} {second : Int}
  {x : Double}

theorem mem_indicatorValues : (name, x) ∈ indicatorValues ms ↔
    IsIndicator name ∧ ∃ v, (name, v) ∈ ms ∧ FiniteNumber v x := by
  simp only [indicatorValues, List.mem_filterMap, List.mem_filter, ← isIndicatorKey_iff,
    ← finite?_eq_some_iff, Option.map_eq_some_iff, Prod.mk.injEq]
  constructor
  · rintro ⟨⟨n, v⟩, ⟨hmem, hkey⟩, y, hy, rfl, rfl⟩
    exact ⟨hkey, v, hmem, hy⟩
  · rintro ⟨hkey, v, hmem, hv⟩
    exact ⟨(name, v), ⟨hmem, hkey⟩, x, hv, rfl, rfl⟩

/-- The indicators of a row ascend by name, as its members do. -/
theorem ascending_indicatorValues (h : Keyed.Ascending Prod.fst ms) :
    Keyed.Ascending Prod.fst (indicatorValues ms) := by
  refine List.pairwise_filterMap.mpr ((h.sublist List.filter_sublist).imp ?_)
  rintro ⟨n, v⟩ ⟨m, w⟩ hlt a ha b hb
  obtain ⟨_, -, rfl⟩ := Option.map_eq_some_iff.mp ha
  obtain ⟨_, -, rfl⟩ := Option.map_eq_some_iff.mp hb
  exact hlt

theorem ofRow?_eq_some_iff {p : IndicatorPoint} : IndicatorPoint.ofRow? row = some p ↔
    ∃ ms i, row = .object ms ∧ TimeOf row i ∧ p = ⟨i.seconds, indicatorValues ms⟩ := by
  simp only [IndicatorPoint.ofRow?, bind, Option.bind_eq_some_iff, Option.some.injEq,
    rowTime?_eq_some_iff]
  constructor
  · rintro ⟨ms, hms, i, hi, rfl⟩
    cases row <;> cases hms
    exact ⟨ms, i, rfl, hi, rfl⟩
  · rintro ⟨ms, i, rfl, hi, rfl⟩
    exact ⟨ms, rfl, i, hi, rfl⟩

theorem ascending_values (h : row.Ordered) {p : IndicatorPoint}
    (hp : IndicatorPoint.ofRow? row = some p) : Keyed.Ascending Prod.fst p.values := by
  obtain ⟨ms, i, rfl, -, rfl⟩ := ofRow?_eq_some_iff.mp hp
  cases h with
  | object hnames hmembers => exact ascending_indicatorValues hnames

/-- The point that a row has on the line of a name. -/
def pointOf? (name : String) (row : Value) : Option LinePoint :=
  (IndicatorPoint.ofRow? row).bind (·.pointNamed? name)

/-- A row has the point that it tells, and no other. -/
theorem pointOf?_eq_some_iff (h : row.Ordered) :
    pointOf? name row = some ⟨second, x⟩ ↔ RowTells row second name x := by
  simp only [pointOf?, Option.bind_eq_some_iff, IndicatorPoint.pointNamed?, Option.map_eq_some_iff,
    LinePoint.mk.injEq]
  constructor
  · rintro ⟨p, hp, y, hy, hsecond, rfl⟩
    rw [(ascending_values h hp).lookup_eq_some_iff] at hy
    obtain ⟨ms, i, rfl, hi, rfl⟩ := ofRow?_eq_some_iff.mp hp
    obtain ⟨hindicator, v, hmem, hv⟩ := mem_indicatorValues.mp hy
    cases h with
    | object hnames hmembers =>
      exact ⟨⟨i, hi, hsecond⟩, hindicator, v, hnames.lookup_eq_some_iff.mpr hmem, hv⟩
  · rintro ⟨⟨i, hi, hsecond⟩, hindicator, v, hv, hx⟩
    cases h with
    | @object ms hnames hmembers =>
      have hmem : (name, v) ∈ ms := hnames.lookup_eq_some_iff.mp hv
      refine ⟨_, ofRow?_eq_some_iff.mpr ⟨ms, i, rfl, hi, rfl⟩, x, ?_, hsecond, rfl⟩
      rw [(ascending_indicatorValues hnames).lookup_eq_some_iff]
      exact mem_indicatorValues.mpr ⟨hindicator, v, hmem, hx⟩
    | _ => cases hv

/-! ## The columns of the candle -/

/-- The rows are the same but for the columns of the candle: these may be changed, be left out or
come in addition. -/
def AlikeButCandle (row other : Value) : Prop :=
  row = other ∨ ∃ ms others, row = .object ms ∧ other = .object others ∧
    ∀ name, ¬ IsCandleColumn name → ms.lookup name = others.lookup name

/-- What is read of a row does not depend on the columns of the candle. -/
theorem AlikeButCandle.ofRow?_eq (h : AlikeButCandle row other) (hrow : row.Ordered)
    (hother : other.Ordered) : IndicatorPoint.ofRow? row = IndicatorPoint.ofRow? other := by
  rcases h with rfl | ⟨ms, others, rfl, rfl, hsame⟩
  · rfl
  cases hrow with
  | object hnames hmembers =>
  cases hother with
  | object honames homembers =>
  have hvalues : indicatorValues ms = indicatorValues others := by
    refine (ascending_indicatorValues hnames).ext_mem (ascending_indicatorValues honames)
      fun m => ?_
    obtain ⟨name, x⟩ := m
    rw [mem_indicatorValues, mem_indicatorValues]
    refine and_congr_right fun hindicator => exists_congr fun v => and_congr_left' ?_
    rw [← hnames.lookup_eq_some_iff, ← honames.lookup_eq_some_iff, hsame name hindicator.2.2]
  have htime : (Value.object ms).rowTime? = (Value.object others).rowTime? := by
    have hstamp := hsame "timestamp" (by unfold IsCandleColumn; decide)
    have htime := hsame "time" (by unfold IsCandleColumn; decide)
    simp only [Value.rowTime?, Value.get?, hstamp, htime]
  simp only [IndicatorPoint.ofRow?, Value.members?, htime, bind, Option.bind_some, hvalues]

/-! ## Answers -/

/-- The rows of an answer: its items if it is an array, those of its member `data` if that is one,
and else none. -/
def rowsOf : Value → List Value
  | .array rows => rows
  | .object ms =>
    match ms.lookup "data" with
    | some (.array rows) => rows
    | _ => []
  | _ => []

/-- The rows that are read are those of the answer. -/
theorem indicatorPoints_eq (answer : Value) :
    indicatorPoints answer = (rowsOf answer).filterMap IndicatorPoint.ofRow? := by
  have hrows : (answer.rows? indicatorRowKeys).getD [] = rowsOf answer := by
    cases answer with
    | array rows => rfl
    | object ms =>
      simp only [Value.rows?, indicatorRowKeys, List.findSome?_cons, List.findSome?_nil, rowsOf]
      rcases ms.lookup "data" with _ | v
      · rfl
      · cases v <;> rfl
    | _ => rfl
  rw [indicatorPoints, hrows]

theorem Json.Value.Ordered.of_mem_rows {answer : Value} (h : answer.Ordered)
    (hrow : row ∈ rowsOf answer) : row.Ordered := by
  cases h with
  | array hitems => exact hitems row hrow
  | @object ms hnames hmembers =>
    simp only [rowsOf] at hrow
    split at hrow
    · next rows hdata =>
      cases hmembers _ (hnames.lookup_eq_some_iff.mp hdata) with
      | array hitems => exact hitems row hrow
    · cases hrow
  | _ => cases hrow

theorem filterMap_ofRow?_eq {rows others : List Value} (h : List.Forall₂ AlikeButCandle rows others)
    (hrows : ∀ r ∈ rows, r.Ordered) (hothers : ∀ r ∈ others, r.Ordered) :
    rows.filterMap IndicatorPoint.ofRow? = others.filterMap IndicatorPoint.ofRow? := by
  induction h with
  | nil => rfl
  | cons halike _ ih =>
    obtain ⟨hrow, hrows⟩ := List.forall_mem_cons.mp hrows
    obtain ⟨hother, hothers⟩ := List.forall_mem_cons.mp hothers
    rw [List.filterMap_cons, List.filterMap_cons, halike.ofRow?_eq hrow hother, ih hrows hothers]

namespace Overlay

/-- The overlay has what the rows of an answer tell: its lines ascend by name and are not empty,
their points ascend by time, and each point is told by the last row that tells its name and
second. -/
structure Tells (o : Overlay) (symbol : Symbol) (answer : Value) : Prop where
  symbol_eq : o.symbol = symbol
  names : Keyed.Ascending IndicatorLine.name o.lines
  not_empty : ∀ l ∈ o.lines, l.points ≠ []
  times : ∀ l ∈ o.lines, Keyed.Ascending LinePoint.time l.points
  /-- Its points are what the rows tell, as far as no later row tells another value of the same name
  and second. -/
  points : ∀ name second x, (∃ l ∈ o.lines, l.name = name ∧ ⟨second, x⟩ ∈ l.points) ↔
    ∃ before row after, rowsOf answer = before ++ row :: after ∧ RowTells row second name x ∧
      ∀ later ∈ after, ∀ y, ¬ RowTells later second name y

variable {symbol : Symbol} {answer : Value}

theorem exists_line_iff_tells (h : answer.Ordered) :
    (∃ l ∈ (ofPoints symbol (indicatorPoints answer)).lines,
      l.name = name ∧ ⟨second, x⟩ ∈ l.points) ↔
    ∃ before row after, rowsOf answer = before ++ row :: after ∧ RowTells row second name x ∧
      ∀ later ∈ after, ∀ y, ¬ RowTells later second name y := by
  have hvalues : ∀ p ∈ indicatorPoints answer, Keyed.Ascending Prod.fst p.values := by
    intro p hp
    rw [indicatorPoints_eq] at hp
    obtain ⟨row, hrow, hp⟩ := List.mem_filterMap.mp hp
    exact ascending_values (h.of_mem_rows hrow) hp
  have hrows : (indicatorPoints answer).filterMap (·.pointNamed? name) =
      (rowsOf answer).filterMap (pointOf? name) := by
    rw [indicatorPoints_eq]
    exact List.filterMap_filterMap ..
  rw [exists_line_iff, pointsNamed_namedPoints hvalues, hrows, Keyed.mem_ofList_filterMap]
  refine exists_congr fun before => exists_congr fun row => exists_congr fun after =>
    and_congr_right fun hsplit => ?_
  have hordered : ∀ r ∈ row :: after, r.Ordered := fun r hr =>
    h.of_mem_rows (hsplit ▸ List.mem_append_right before hr)
  refine and_congr (pointOf?_eq_some_iff (hordered row List.mem_cons_self)) ?_
  refine forall₂_congr fun later hlater => ?_
  have hlater := hordered later (List.mem_cons_of_mem _ hlater)
  constructor
  · intro hnone y hy
    exact hnone ⟨second, y⟩ ((pointOf?_eq_some_iff hlater).mpr hy) rfl
  · rintro hnone ⟨time, y⟩ hy rfl
    exact hnone y ((pointOf?_eq_some_iff hlater).mp hy)

theorem tells_ofPoints (h : answer.Ordered) :
    (ofPoints symbol (indicatorPoints answer)).Tells symbol answer where
  symbol_eq := rfl
  names := ascending_names
  not_empty l hl := by
    obtain ⟨name, hname, rfl⟩ := exists_of_mem_lines hl
    exact fun hempty => lineOf_points_eq_nil_iff.mp hempty hname
  times l hl := by
    obtain ⟨name, -, rfl⟩ := exists_of_mem_lines hl
    exact ascending_lineOf
  points name second x := exists_line_iff_tells h

/-- **From an answer to its overlay.** The lines of an answer ascend by name, none is empty, and the
points of each ascend by time. A point is there exactly if some row of the answer tells it and no
later row tells another value of its name and second. Answers whose rows differ only in the columns
of the candle have the same overlay. -/
theorem overlay_of_answer (symbol : Symbol) (answer : Value) (h : answer.Ordered) :
    (ofPoints symbol (indicatorPoints answer)).Tells symbol answer ∧
      ∀ other : Value, other.Ordered → List.Forall₂ AlikeButCandle (rowsOf answer) (rowsOf other) →
        ofPoints symbol (indicatorPoints other) = ofPoints symbol (indicatorPoints answer) := by
  refine ⟨tells_ofPoints h, fun other hother halike => ?_⟩
  rw [indicatorPoints_eq, indicatorPoints_eq, filterMap_ofRow?_eq halike
    (fun r hr => h.of_mem_rows hr) fun r hr => hother.of_mem_rows hr]

/-- A row at a minute, with a value and one column of the candle. -/
def rowWith (column : String) : Value :=
  .object [(column, .number (.int 7)), ("rsi", .string " 50"), ("time", .number (.int 60))]

/-- A row at the same minute, of which the value is unknown. -/
def rowUnknown : Value := .object [("rsi", .null), ("time", .string "60")]

theorem overlay_of_answer_columns :
    let answer := Value.object [("data", .array [rowWith "Close", rowUnknown])]
    let other := Value.array [rowWith "VOLUME", rowUnknown]
    answer.Ordered ∧ (ofPoints ⟨"BTC-USD"⟩ (indicatorPoints answer)).Tells ⟨"BTC-USD"⟩ answer ∧
      other.Ordered ∧ List.Forall₂ AlikeButCandle (rowsOf answer) (rowsOf other) ∧
      ofPoints ⟨"BTC-USD"⟩ (indicatorPoints other) =
        ofPoints ⟨"BTC-USD"⟩ (indicatorPoints answer) := by
  intro answer other
  have hunknown : rowUnknown.Ordered := by
    refine .object (by decide) ?_
    simpa using ⟨.null, .string "60"⟩
  have hcolumn : ∀ column : String, ∀ m ∈ [(column, Value.number (.int 7)), ("rsi", .string " 50"),
      ("time", .number (.int 60))], m.2.Ordered := by
    intro column
    simpa using ⟨.number (.int 7), .string " 50", .number (.int 60)⟩
  have hclose : (rowWith "Close").Ordered := .object (by decide) (hcolumn "Close")
  have hvolume : (rowWith "VOLUME").Ordered := .object (by decide) (hcolumn "VOLUME")
  have hanswer : answer.Ordered := by
    refine .object (by decide) ?_
    simpa using .array (by simpa using ⟨hclose, hunknown⟩)
  have hother : other.Ordered :=
    .array (by simpa using ⟨hvolume, hunknown⟩)
  -- The first rows differ only in `Close` and `VOLUME`, which are columns of the candle.
  have halike : List.Forall₂ AlikeButCandle (rowsOf answer) (rowsOf other) := by
    refine .cons (.inr ⟨_, _, rfl, rfl, fun name hname => ?_⟩) (.cons (.inl rfl) .nil)
    have hnotClose : name ≠ "Close" := by
      rintro rfl
      exact hname ⟨"close", by decide, by decide⟩
    have hnotVolume : name ≠ "VOLUME" := by
      rintro rfl
      exact hname ⟨"volume", by decide, by decide⟩
    simp only [List.lookup_cons, beq_eq_false_iff_ne.mpr hnotClose,
      beq_eq_false_iff_ne.mpr hnotVolume]
  obtain ⟨htells, hsame⟩ := overlay_of_answer ⟨"BTC-USD"⟩ answer hanswer
  exact ⟨hanswer, htells, hother, halike, hsame other hother halike⟩

/-- The unknown value takes none away. -/
example : (ofPoints ⟨"BTC-USD"⟩ (indicatorPoints (.array [rowWith "Close", rowUnknown]))).lines =
    [⟨"rsi", [⟨60, Double.ofInt 50⟩]⟩] := by
  decide +kernel

end Overlay

end TickChart
