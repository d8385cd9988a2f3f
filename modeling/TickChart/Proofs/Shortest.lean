import Mathlib.Tactic.Ring
import TickChart.Number.DecimalReader
import TickChart.Number.Shortest
import TickChart.Proofs.DecimalText
import TickChart.Proofs.Nearest

/-!
# The shortest notation of a large double

A double with 53 bits and eleven or twelve zeros behind them has no fraction digit in its shortest
notation. What is written is at most half a unit of its last place away from the double, and is read
as a decimal without a fraction.

* `near_of_readsBack`: a decimal that reads back is near.
* `stripZeros_eq`, `le_decimalWidth`: no digit of it is behind the point.
* `shortest_near`: the digits and the zeros that are written.
* `readPlain?_written`: what digits are read as. `readPlain?_plainChars`: what is read of such a
  double.
-/

namespace TickChart.Double

open Text

variable {x : Double} {m e d k : Nat} {tie : Tie}

/-! ## Places -/

theorem ofBinary_natCast (m e : Nat) : Ratio.ofBinary m (e : Int) = ⟨m * 2 ^ e, 1⟩ := by
  have hneg : (-(e : Int)).toNat = 0 := by omega
  rw [Ratio.ofBinary, hneg, Int.toNat_natCast]
  rfl

theorem ofDecimal_natCast (d k : Nat) : Ratio.ofDecimal d (k : Int) = ⟨d * tenTo k, 1⟩ := by
  have hneg : (-(k : Int)).toNat = 0 := by omega
  rw [Ratio.ofDecimal, hneg, Int.toNat_natCast]
  rfl

/-- `d * 10 ^ k` is at most half a unit of the last place away from `m * 2 ^ e`. -/
def Near (m e d k : Nat) : Prop :=
  2 * (d * tenTo k) ≤ 2 * (m * 2 ^ e) + 2 ^ e ∧ 2 * (m * 2 ^ e) ≤ 2 * (d * tenTo k) + 2 ^ e

theorem near_of_readsBack (h : x.magnitude = (m, (e : Int))) (he : 2 ≤ e)
    (hread : x.readsBack d k = true) : Near m e d k := by
  have hplace : (e : Int) - 2 = (e - 2 : Nat) := by omega
  -- All is counted in quarters of the last place, in which the ends of the interval are whole.
  have hquarter : 2 ^ e = 4 * 2 ^ (e - 2) := by
    rw [show (4 : Nat) = 2 ^ 2 from rfl, ← Nat.pow_add]
    congr 1
    omega
  have hlow : x.lowEnd = ⟨(4 * m - if x.narrowBelow then 1 else 2) * 2 ^ (e - 2), 1⟩ := by
    rw [lowEnd, h, hplace, ofBinary_natCast]
  have hhigh : x.highEnd = ⟨(4 * m + 2) * 2 ^ (e - 2), 1⟩ := by
    rw [highEnd, h, hplace, ofBinary_natCast]
  have hends : (4 * m - if x.narrowBelow then 1 else 2) * 2 ^ (e - 2) ≤ d * tenTo k ∧
      d * tenTo k ≤ (4 * m + 2) * 2 ^ (e - 2) := by
    simp only [readsBack, hlow, hhigh, ofDecimal_natCast, Ratio.le, Ratio.lt, Nat.mul_one] at hread
    split at hread
    · simpa only [Bool.and_eq_true, decide_eq_true_eq] using hread
    · simp only [Bool.and_eq_true, decide_eq_true_eq] at hread
      exact ⟨Nat.le_of_lt hread.1, Nat.le_of_lt hread.2⟩
  -- Where the interval is narrower below, it lies within the wider one.
  have hwide : (4 * m - 2) * 2 ^ (e - 2) ≤
      (4 * m - if x.narrowBelow then 1 else 2) * 2 ^ (e - 2) := by
    refine Nat.mul_le_mul_right _ ?_
    split <;> omega
  have hmiddle : m * 2 ^ e = 4 * (m * 2 ^ (e - 2)) := by rw [hquarter]; ring
  have hbelow : (4 * m - 2) * 2 ^ (e - 2) = 4 * (m * 2 ^ (e - 2)) - 2 * 2 ^ (e - 2) := by
    rw [Nat.sub_mul, Nat.mul_assoc]
  have habove : (4 * m + 2) * 2 ^ (e - 2) = 4 * (m * 2 ^ (e - 2)) + 2 * 2 ^ (e - 2) := by ring
  rw [Near]
  omega

theorem readsBack_of_nearest? {place : Int} (h : nearest? tie x place = some d) :
    x.readsBack d place = true := by
  simp only [nearest?] at h
  split at h
  · next hbelow _ => cases h; exact hbelow
  · next _ habove => cases h; exact habove
  · cases h
  · next hbelow habove =>
    split at h
    · cases h; exact hbelow
    · split at h
      · cases h; exact habove
      · split at h
        · cases h; exact hbelow
        · cases h; exact habove

/-- Without its trailing zeros a decimal is the same, and it has no more fraction digits. -/
theorem stripZeros_eq (fuel d k : Nat) :
    ∃ d' k' : Nat, stripZeros fuel d k = (d', (k' : Int)) ∧ d' * tenTo k' = d * tenTo k := by
  induction fuel generalizing d k with
  | zero => exact ⟨d, k, rfl, rfl⟩
  | succ fuel ih =>
    rw [stripZeros]
    split
    · next hzero =>
      obtain ⟨d', k', hstrip, hvalue⟩ := ih (d / 10) (k + 1)
      refine ⟨d', k', hstrip, ?_⟩
      have hlast : d / 10 * 10 = d := by omega
      rw [hvalue, tenTo_succ, Nat.mul_comm (tenTo k), ← Nat.mul_assoc, hlast]
    · exact ⟨d, k, rfl, rfl⟩

/-- Such a double has more than seventeen digits before the point. -/
theorem le_decimalWidth (h : x.magnitude = (m, (e : Int))) (hm : 2 ^ 52 ≤ m) (hm' : m < 2 ^ 53)
    (he : 11 ≤ e) : 18 ≤ x.decimalWidth := by
  have hguess : 18 ≤ (((m.log2 : Int) + e) * 30103).fdiv 100000 := by
    rw [log2_eq hm hm', Int.fdiv_eq_ediv_of_nonneg _ (by decide)]
    omega
  simp only [decimalWidth, h]
  split
  · exact hguess
  · split <;> omega

/-- The shortest notation of such a double: digits, zeros behind them, and no fraction. -/
theorem shortest_near (h : x.magnitude = (m, (e : Int))) (hm : 2 ^ 52 ≤ m) (hm' : m < 2 ^ 53)
    (he : 11 ≤ e) (tie : Tie) :
    ∃ d k : Nat, x.shortest tie = (d, (k : Int)) ∧ Near m e d k := by
  have hwidth := le_decimalWidth h hm hm' he
  have hpos : ¬ x.magnitude.1 = 0 := by rw [h]; show ¬ m = 0; omega
  have hplace : 0 ≤ x.magnitude.2 := by rw [h]; exact Int.natCast_nonneg e
  rw [shortest, if_neg hpos, if_pos hplace]
  cases hfound : (List.range 17).findSome? fun (n : Nat) =>
      (nearest? tie x (x.decimalWidth - (n + 1))).map fun digits =>
        stripZeros 20 digits (x.decimalWidth - (n + 1)) with
  | none =>
    refine ⟨m * 2 ^ e, 0, by rw [h]; rfl, ?_⟩
    rw [Near, tenTo_zero, Nat.mul_one]
    exact ⟨Nat.le_add_right _ _, Nat.le_add_right _ _⟩
  | some found =>
    obtain ⟨n, hn, hmap⟩ := List.exists_of_findSome?_eq_some hfound
    obtain ⟨digits, hnearest, rfl⟩ := Option.map_eq_some_iff.mp hmap
    obtain ⟨place, hexponent⟩ := Int.eq_ofNat_of_zero_le
      (a := x.decimalWidth - (n + 1)) (by have hlt := List.mem_range.mp hn; omega)
    rw [hexponent] at hnearest ⊢
    obtain ⟨d, k, hstrip, hvalue⟩ := stripZeros_eq 20 digits place
    have hnear := near_of_readsBack h (by omega) (readsBack_of_nearest? hnearest)
    refine ⟨d, k, hstrip, ?_⟩
    rw [Near, hvalue]
    exact hnear

/-! ## Digits -/

theorem plainChars_eq (hsign : x.negative = false) (h : x.shortest .up = (d, (k : Int))) :
    x.plainChars = written (digitsOf d ++ List.replicate k 0) := by
  have hlength : 0 < (digitsOf d).length := List.length_pos_iff.mpr (digitsOf_ne_nil d)
  have hpoint : ¬ ((digits d).length : Int) + k ≤ 0 := by
    rw [digits_eq, length_written]
    omega
  have hall : (digits d).length ≤ (((digits d).length : Int) + k).toNat := by omega
  have hzeros : (((digits d).length : Int) + k).toNat - (digits d).length = k := by omega
  have hwhole : (written (digitsOf d ++ List.replicate k 0)).isEmpty = false := by
    rw [List.isEmpty_eq_false_iff, written, Ne, List.map_eq_nil_iff, List.append_eq_nil_iff]
    exact fun hnil => digitsOf_ne_nil d hnil.1
  rw [plainChars, h]
  simp only [layPoint, if_neg hpoint, if_pos hall, hzeros]
  rw [digits_eq, ← written_replicate_zero, ← written_append, hwhole, signed, hsign]
  rfl

end TickChart.Double

namespace TickChart

open Text

theorem natOfDigits_zeros (n k : Nat) : natOfDigits n (List.replicate k 0) = n * tenTo k := by
  induction k generalizing n with
  | zero => rw [List.replicate_zero, natOfDigits_nil, tenTo_zero, Nat.mul_one]
  | succ k ih =>
    rw [List.replicate_succ, natOfDigits_cons, ih, tenTo_succ]
    ring

/-- Digits alone are read as their number. -/
theorem Decimal.readPlain?_written {ds : List Nat} (hds : ∀ d ∈ ds, d < 10) (hne : ds ≠ [])
    (hlt : natOfDigits 0 ds < coeffLimit) :
    Decimal.readPlain? (written ds) = Decimal.ofInt? (natOfDigits 0 ds) := by
  have hsplit : Decimal.splitSign (written ds) = (false, written ds) := by
    rw [← List.append_nil (written ds)]
    exact Decimal.splitSign_written hds hne
  have hdigits : Decimal.takeDigits? false false 0 0 (written ds) =
      some (natOfDigits 0 ds, 0) := by
    rw [← List.append_nil (written ds), Decimal.takeDigits?_whole hds hne hlt]
    rfl
  have hsigned : decide ((natOfDigits 0 ds : Int) < 0) = false := decide_eq_false (by omega)
  rw [Decimal.readPlain?, hsplit]
  simp only [hdigits, Option.bind_eq_bind, Option.bind_some, Bool.false_and, Decimal.ofInt?,
    Decimal.ofCoeff?, hsigned, Int.natAbs_natCast]

/-- **What is read of such a double**: a natural number at most half a unit of the last place away
from it. -/
theorem Double.readPlain?_plainChars {x : Double} {m e : Nat} (hsign : x.negative = false)
    (h : x.magnitude = (m, (e : Int))) (hm : 2 ^ 52 ≤ m) (hm' : m < 2 ^ 53) (he : 11 ≤ e)
    (he' : e ≤ 12) :
    ∃ n : Nat, Decimal.readPlain? x.plainChars = Decimal.ofInt? n ∧ n < coeffLimit ∧
      2 * n ≤ 2 * (m * 2 ^ e) + 2 ^ e ∧ 2 * (m * 2 ^ e) ≤ 2 * n + 2 ^ e := by
  obtain ⟨d, k, hshortest, hle, hge⟩ := shortest_near h hm hm' he .up
  have hvalue : natOfDigits 0 (digitsOf d ++ List.replicate k 0) = d * tenTo k := by
    rw [natOfDigits_append, natOfDigits_digitsOf, natOfDigits_zeros]
  have hdigits : ∀ n ∈ digitsOf d ++ List.replicate k 0, n < 10 := by
    intro n hn
    rcases List.mem_append.mp hn with hn | hn
    · exact lt_ten_of_mem_digitsOf n hn
    · rw [List.eq_of_mem_replicate hn]
      decide
  have hlt : d * tenTo k < coeffLimit := by
    have hpower : 2 ^ e ≤ 2 ^ 12 := Nat.pow_le_pow_right (by decide) he'
    have hproduct : m * 2 ^ e ≤ 2 ^ 53 * 2 ^ 12 := Nat.mul_le_mul (by omega) hpower
    have hlimit : coeffLimit = 2 ^ 96 := rfl
    omega
  have hne : digitsOf d ++ List.replicate k 0 ≠ [] :=
    List.append_ne_nil_of_left_ne_nil (digitsOf_ne_nil d) _
  refine ⟨d * tenTo k, ?_, hlt, hle, hge⟩
  rw [plainChars_eq hsign hshortest, Decimal.readPlain?_written hdigits hne (by rwa [hvalue]),
    hvalue]

end TickChart
