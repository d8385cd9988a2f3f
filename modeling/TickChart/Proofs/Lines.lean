import Mathlib.Data.String.Basic
import TickChart.Indicator.Overlay
import TickChart.Proofs.Values

/-!
# The lines of an overlay

Rows of values become one line for each name. What a line is depends on the values of its name
alone, and a name has a line exactly if it has a value.

* `pointsNamed`: the values of a name, in the order in which they came.
* `mem_namesOf`, `lineOf_points_eq_nil_iff`: the names, and that none of their lines is empty.
* `pointsNamed_namedPoints`: the values of a name, row by row.
* `Overlay.ascending_names`, `Overlay.exists_line_iff`: the lines of an overlay and their points.
* `namedPoints_filter`, `lineOf_filter`, `namesOf_filter`: what is left of values, of lines and of
  names when rows are chosen by their times.
-/

namespace TickChart

/-- The values of a name, in the order in which they came. -/
def pointsNamed (named : List (String × LinePoint)) (name : String) : List LinePoint :=
  named.filterMap fun (n, p) => if n = name then some p else none

variable {named : List (String × LinePoint)} {name : String} {points : List IndicatorPoint}
  {p : LinePoint}

theorem mem_pointsNamed : p ∈ pointsNamed named name ↔ (name, p) ∈ named := by
  simp only [pointsNamed, List.mem_filterMap]
  constructor
  · rintro ⟨⟨n, q⟩, hmem, hq⟩
    split at hq
    · next hn =>
      cases hq
      exact hn ▸ hmem
    · cases hq
  · intro hmem
    exact ⟨(name, p), hmem, if_pos rfl⟩

theorem mem_namesOf : name ∈ namesOf named ↔ ∃ p, (name, p) ∈ named := by
  rw [namesOf, Keyed.mem_ofList_id, List.mem_map]
  constructor
  · rintro ⟨⟨n, p⟩, hmem, rfl⟩
    exact ⟨p, hmem⟩
  · rintro ⟨p, hmem⟩
    exact ⟨(name, p), hmem, rfl⟩

theorem ascending_namesOf : Keyed.Ascending id (namesOf named) := Keyed.ascending_ofList

theorem ascending_lineOf : Keyed.Ascending LinePoint.time (lineOf named name).points :=
  Keyed.ascending_ofList

/-- A line is empty exactly if its name has no value, and then it is not there. -/
theorem lineOf_points_eq_nil_iff : (lineOf named name).points = [] ↔ name ∉ namesOf named := by
  rw [mem_namesOf, not_exists, List.eq_nil_iff_forall_not_mem]
  constructor
  · intro hempty p hmem
    have hne : pointsNamed named name ≠ [] := List.ne_nil_of_mem (mem_pointsNamed.mpr hmem)
    obtain ⟨front, last, hsplit⟩ := List.eq_nil_or_concat _ |>.resolve_left hne
    refine hempty last (Keyed.mem_ofList.mpr ⟨front, [], ?_, nofun⟩)
    rw [← List.concat_eq_append]
    exact hsplit
  · intro hnone p hmem
    exact hnone p (mem_pointsNamed.mp (Keyed.mem_of_mem_ofList hmem))

/-! ## Values row by row -/

/-- The value of a name in a row. -/
def IndicatorPoint.pointNamed? (row : IndicatorPoint) (name : String) : Option LinePoint :=
  (row.values.lookup name).map (LinePoint.mk row.time)

theorem pointsNamed_row {values : List (String × Double)} (h : Keyed.Ascending Prod.fst values)
    (time : Int) : pointsNamed (values.map fun (n, v) => (n, ⟨time, v⟩)) name =
      ((values.lookup name).map (LinePoint.mk time)).toList := by
  induction values with
  | nil => rfl
  | cons m rest ih =>
    obtain ⟨n, v⟩ := m
    obtain ⟨hn, hrest⟩ := Keyed.ascending_cons.mp h
    have hrest := ih hrest
    rw [pointsNamed] at hrest ⊢
    rw [List.map_cons, List.filterMap_cons, hrest, List.lookup_cons]
    by_cases hname : n = name
    · -- The name does not come again.
      subst hname
      have hnone : rest.lookup n = none := by
        rw [List.lookup_eq_none_iff]
        exact fun m hm => bne_iff_ne.mpr (ne_of_lt (hn m hm))
      simp [hnone]
    · simp [hname, beq_eq_false_iff_ne.mpr (Ne.symm hname)]

/-- The values of a name are those of the rows that have one. -/
theorem pointsNamed_namedPoints (h : ∀ row ∈ points, Keyed.Ascending Prod.fst row.values) :
    pointsNamed (namedPoints points) name = points.filterMap (·.pointNamed? name) := by
  rw [List.filterMap_eq_flatMap_toList, namedPoints, pointsNamed, List.filterMap_flatMap]
  refine List.flatMap_congr fun row hrow => ?_
  exact pointsNamed_row (h row hrow) row.time

/-! ## Lines -/

namespace Overlay

variable {symbol : Symbol}

theorem ascending_names : Keyed.Ascending IndicatorLine.name (ofPoints symbol points).lines :=
  List.pairwise_map.mpr ascending_namesOf

theorem exists_of_mem_lines {l : IndicatorLine} (h : l ∈ (ofPoints symbol points).lines) :
    ∃ name ∈ namesOf (namedPoints points), lineOf (namedPoints points) name = l :=
  List.mem_map.mp h

/-- A point is on the line of a name exactly if it is one of the name. -/
theorem exists_line_iff :
    (∃ l ∈ (ofPoints symbol points).lines, l.name = name ∧ p ∈ l.points) ↔
      p ∈ Keyed.ofList LinePoint.time (pointsNamed (namedPoints points) name) := by
  constructor
  · rintro ⟨l, hl, rfl, hp⟩
    obtain ⟨name, -, rfl⟩ := exists_of_mem_lines hl
    exact hp
  · intro hp
    refine ⟨lineOf (namedPoints points) name, List.mem_map_of_mem ?_, rfl, hp⟩
    by_contra hnone
    exact List.ne_nil_of_mem hp (lineOf_points_eq_nil_iff.mpr hnone)

end Overlay

/-! ## Rows chosen by their times -/

variable (q : Int → Bool)

theorem namedPoints_filter :
    namedPoints (points.filter fun p => q p.time) =
      (namedPoints points).filter fun np => q np.2.time := by
  induction points with
  | nil => rfl
  | cons row rows ih =>
    have hrow : (row.values.map fun (n, v) => (n, LinePoint.mk row.time v)).filter
        (fun np => q np.2.time) =
          if q row.time then row.values.map fun (n, v) => (n, LinePoint.mk row.time v) else [] := by
      rw [List.filter_map]
      cases hq : q row.time <;> simp [Function.comp_def, hq]
    simp only [namedPoints] at ih ⊢
    rw [List.flatMap_cons, List.filter_append, hrow, List.filter_cons, ← ih]
    cases q row.time <;> simp

theorem pointsNamed_filter :
    pointsNamed (named.filter fun np => q np.2.time) name =
      (pointsNamed named name).filter fun p => q p.time := by
  rw [pointsNamed, pointsNamed, List.filterMap_filter, List.filter_filterMap]
  congr 1
  funext ⟨n, p⟩
  by_cases hn : n = name <;> cases hq : q p.time <;> simp [hn, hq, Option.filter_some]

theorem lineOf_filter :
    lineOf (named.filter fun np => q np.2.time) name =
      { lineOf named name with points := (lineOf named name).points.filter fun p => q p.time } := by
  have hnamed : pointsNamed (named.filter fun np => q np.2.time) name = _ := pointsNamed_filter q
  have hpoints := congrArg (Keyed.ofList LinePoint.time) hnamed
  rw [← Keyed.filter_ofList q] at hpoints
  exact congrArg (IndicatorLine.mk name) hpoints

/-- The names that are left are those whose lines are. -/
theorem namesOf_filter :
    namesOf (named.filter fun np => q np.2.time) =
      (namesOf named).filter fun n =>
        !(lineOf (named.filter fun np => q np.2.time) n).points.isEmpty := by
  refine ascending_namesOf.ext_mem (ascending_namesOf.sublist List.filter_sublist) fun n => ?_
  rw [List.mem_filter, Bool.not_eq_true', List.isEmpty_eq_false_iff, ne_eq,
    lineOf_points_eq_nil_iff, not_not]
  refine ⟨fun h => ⟨?_, h⟩, And.right⟩
  obtain ⟨p, hp⟩ := mem_namesOf.mp h
  exact mem_namesOf.mpr ⟨p, (List.mem_filter.mp hp).1⟩

end TickChart
