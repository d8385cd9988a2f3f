import Mathlib.Data.List.Sort
import TickChart.Backend.History
import TickChart.Chart.Timeline
import TickChart.Proofs.Lines
import TickChart.Proofs.Series

/-!
# The last entry of a key

Of several entries of one key a table has the last one. So two lists of entries make up one table
whether they are put in order before they are joined or behind, and a table that is put in order is
left as it is. One stable sort by the keys and one pass, in which an entry takes the place of the
one before it if both are of one key, lead to the same table. So it is with the candles of a series
and their buckets, and with the points of an indicator line and their times.

* `Keyed.sorted`: entries in the order of their keys. `Keyed.filter_sorted`: those of one key stay
  in the order in which they came.
* `Keyed.place`: one step of the pass. `Keyed.put_eq_place`: behind entries of no later key it is
  what is done with any entry. `Keyed.foldl_place`, `Keyed.ofList_eq_pass`: the whole pass.
* `lineOf_eq_pass`: the points of a line.
* `Series.ofCandles_eq_self_iff`, `Series.reset_eq_iff`: the lists of candles that are left as they
  are.
* `Series.last_candle_wins`: the series of two lists.
-/

namespace TickChart

namespace Keyed

/-! ## Sort and pass -/

variable {α κ : Type} [LT κ] [DecidableLT κ] [DecidableEq κ] {key : α → κ} {x : α}
  {table entries : List α}

/-- The key of the one entry is not after that of the other. -/
def notAfter (key : α → κ) (x y : α) : Bool := ¬ key y < key x

/-- Entries in the order of their keys; those of one key stay in the order in which they came. -/
def sorted (key : α → κ) (entries : List α) : List α := entries.mergeSort (notAfter key)

/-- An entry behind the others, or in the place of the last one if that is of the same key. -/
def place (key : α → κ) (table : List α) (x : α) : List α :=
  if table.getLast?.map key = some (key x) then table.dropLast ++ [x] else table ++ [x]

variable [IsStrictTotalOrder κ (· < ·)]

omit [DecidableLT κ] [DecidableEq κ] in
/-- A key that is not before another one is after it or the same. -/
theorem lt_or_eq_of_not_lt {k l : κ} (h : ¬ l < k) : k < l ∨ k = l := by
  rcases trichotomous_of (· < ·) k l with hlt | heq | hgt
  · exact .inl hlt
  · exact .inr heq
  · exact absurd hgt h

omit [DecidableEq κ] in
theorem notAfter_trans (x y z : α) (hxy : notAfter key x y = true) (hyz : notAfter key y z = true) :
    notAfter key x z = true := by
  simp only [notAfter, decide_eq_true_eq] at *
  intro hlt
  rcases lt_or_eq_of_not_lt hxy with hxy | hxy
  · exact hyz (trans_of (· < ·) hlt hxy)
  · exact hyz (hxy ▸ hlt)

omit [DecidableEq κ] in
theorem notAfter_total (x y : α) : (notAfter key x y || notAfter key y x) = true := by
  simp only [notAfter, Bool.or_eq_true, decide_eq_true_eq]
  by_cases h : key y < key x
  · exact .inr (asymm_of (· < ·) h)
  · exact .inl h

omit [DecidableEq κ] in
theorem pairwise_sorted (key : α → κ) (entries : List α) :
    (sorted key entries).Pairwise fun x y => ¬ key y < key x :=
  (List.pairwise_mergeSort notAfter_trans notAfter_total entries).imp of_decide_eq_true

/-- The sort is stable. -/
theorem filter_sorted (entries : List α) (k : κ) :
    (sorted key entries).filter (key · = k) = entries.filter (key · = k) := by
  have hequal : (entries.filter (key · = k)).Pairwise fun x y => notAfter key x y = true := by
    refine List.pairwise_of_forall_mem_list fun x hx y hy => decide_eq_true ?_
    rw [of_decide_eq_true (List.mem_filter.mp hx).2, of_decide_eq_true (List.mem_filter.mp hy).2]
    exact irrefl_of (· < ·) k
  have hsublist : (entries.filter (key · = k)).Sublist (sorted key entries) :=
    List.sublist_mergeSort notAfter_trans notAfter_total hequal List.filter_sublist
  have hfiltered := hsublist.filter (key · = k)
  simp only [List.filter_filter, Bool.and_self] at hfiltered
  have hlength := ((List.mergeSort_perm entries (notAfter key)).filter (key · = k)).length_eq
  exact (hfiltered.eq_of_length hlength.symm).symm

/-- Behind entries of no later key, an entry is put to the place where the pass puts it. -/
theorem put_eq_place (h : Ascending key table) (hle : ∀ y ∈ table, ¬ key x < key y) :
    put key x table = place key table x := by
  rcases List.eq_nil_or_concat table with rfl | ⟨front, last, rfl⟩
  · rfl
  · rw [List.concat_eq_append] at *
    have hbefore := (ascending_concat.mp h).2
    have hlast := lt_or_eq_of_not_lt (hle last (List.mem_append_right _ List.mem_cons_self))
    simp only [place, List.getLast?_concat, Option.map_some, Option.some.injEq,
      List.dropLast_concat]
    split
    · -- the last entry is of the key, all others are before it
      next heq =>
      rw [put_append_of_above (heq ▸ hbefore)]
      simp only [put, heq, irrefl_of (· < ·) (key x), ↓reduceIte]
    · -- all entries are before the new one
      next hne =>
      have habove : key last < key x := hlast.resolve_right hne
      refine put_of_above fun y hy => ?_
      rcases List.mem_append.mp hy with hy | hy
      · exact trans_of (· < ·) (hbefore y hy) habove
      · exact List.mem_singleton.mp hy ▸ habove

/-- The pass over entries in the order of their keys leaves the last one of each key. -/
theorem foldl_place (h : entries.Pairwise fun x y => ¬ key y < key x) :
    entries.foldl (place key) [] = ofList key entries := by
  induction entries using List.reverseRecOn with
  | nil => rfl
  | append_singleton entries x ih =>
    obtain ⟨hbefore, -, hlast⟩ := List.pairwise_append.mp h
    have hle : ∀ y ∈ ofList key entries, ¬ key x < key y := fun y hy =>
      hlast y (mem_of_mem_ofList hy) x List.mem_cons_self
    calc (entries ++ [x]).foldl (place key) []
        = place key (ofList key entries) x := by rw [List.foldl_concat, ih hbefore]
      _ = put key x (ofList key entries) := (put_eq_place ascending_ofList hle).symm
      _ = ofList key (entries ++ [x]) := ofList_concat.symm

/-- Entries make a table by a stable sort and one pass. -/
theorem ofList_eq_pass (entries : List α) :
    ofList key entries = (sorted key entries).foldl (place key) [] := by
  rw [foldl_place (pairwise_sorted key entries)]
  exact ofList_congr fun k => (filter_sorted entries k).symm

end Keyed

/-- The points of a line are those of its name, after a stable sort by time and one pass. -/
theorem lineOf_eq_pass (named : List (String × LinePoint)) (name : String) :
    (lineOf named name).points =
      (Keyed.sorted LinePoint.time (pointsNamed named name)).foldl
        (Keyed.place LinePoint.time) [] :=
  Keyed.ofList_eq_pass _

namespace Series

variable {series : List Candle}

/-! ## What is left as it is -/

theorem ofCandles_eq_self_iff : ofCandles series = series ↔ Ascending series := by
  constructor
  · intro h
    exact h ▸ ascending_ofCandles series
  · exact Keyed.Ascending.ofList_eq

/-- History of the present generation is installed as it is exactly if it is a series. -/
theorem reset_eq_iff (t : Timeline) :
    t.reset t.generation series = .ok ({ t with series }, .replaceAll series) ↔
      Ascending series := by
  rw [← ofCandles_eq_self_iff]
  simp [Timeline.reset]

theorem ascending_ofRows (f : Timeframe) (rows : List Json.Value) : Ascending (ofRows f rows) :=
  ascending_ofCandles _

/-- **The last candle of a bucket wins.** The series of two lists of candles, which is made by a
stable sort and one pass, is that of their two series. It ascends, and has those candles behind
which there is none of the same bucket. The lists that ascend already are those that are left as
they are, so that a timeline takes over a history of rows unchanged. -/
theorem last_candle_wins (a b : List Candle) :
    ofCandles (a ++ b) = ofCandles (ofCandles a ++ ofCandles b) ∧
      ofCandles (a ++ b) = (Keyed.sorted Candle.bucketStart (a ++ b)).foldl
        (Keyed.place Candle.bucketStart) [] ∧
      Ascending (ofCandles (a ++ b)) ∧
      (∀ c, c ∈ ofCandles (a ++ b) ↔ ∃ before after, a ++ b = before ++ c :: after ∧
        ∀ d ∈ after, d.bucketStart ≠ c.bucketStart) ∧
      (∀ series, ofCandles series = series ↔ Ascending series) ∧
      (∀ (t : Timeline) series,
        t.reset t.generation series = .ok ({ t with series }, .replaceAll series) ↔
          Ascending series) ∧
      ∀ (t : Timeline) f rows, t.reset t.generation (ofRows f rows) =
        .ok ({ t with series := ofRows f rows }, .replaceAll (ofRows f rows)) :=
  ⟨Keyed.ofList_append, Keyed.ofList_eq_pass _, ascending_ofCandles _, fun _ => Keyed.mem_ofList,
    fun _ => ofCandles_eq_self_iff, fun t _ => reset_eq_iff t,
    fun t f rows => (reset_eq_iff t).mpr (ascending_ofRows f rows)⟩

end Series

end TickChart
