import Mathlib.Algebra.BigOperators.Group.List.Basic
import Mathlib.Algebra.Order.Field.Basic
import Mathlib.Algebra.Order.Field.Rat
import Mathlib.Data.List.Induction
import Mathlib.Tactic.Linarith
import Mathlib.Tactic.Ring
import TickChart.Number.Decimal

/-!
# Decimals as numbers

The order of decimals is that of the numbers they stand for, and their sum is the sum of the numbers
as long as it needs no more than 96 bits.

* `le_iff_toRat_le`, `lt_iff_toRat_lt`: the order, whatever the scales.
* `highest_mem`, `le_highest`, `lowest_mem`, `lowest_le`: the greater and the smaller of two
  decimals.
* `foldl_highest`, `foldl_lowest`: the greatest and the smallest of several.
* `toRat_add?`: a sum whose digits at the larger scale need at most 96 bits is exact.
* `add?_eq_none_iff`: when a sum is too large.
* `total?`: decimals added up in their order. `total?_nonneg`, `toRat_total?`: what is known of it.
-/

namespace TickChart.Decimal

variable {a b c d : Decimal}

theorem tenTo_cast_pos (n : Nat) : (0 : Rat) < (tenTo n : Nat) := Nat.cast_pos.mpr (tenTo_pos n)

theorem toRat_eq_div (d : Decimal) : d.toRat = (d.coeff : Rat) / (tenTo d.scale : Nat) :=
  Rat.mkRat_eq_div d.coeff (tenTo d.scale)

/-! ## Order -/

theorem le_iff_toRat_le : a ≤ b ↔ a.toRat ≤ b.toRat := by
  rw [toRat_eq_div, toRat_eq_div, div_le_div_iff₀ (tenTo_cast_pos _) (tenTo_cast_pos _)]
  show a.coeff * tenTo b.scale ≤ b.coeff * tenTo a.scale ↔ _
  exact_mod_cast Iff.rfl

theorem lt_iff_toRat_lt : a < b ↔ a.toRat < b.toRat := by
  rw [toRat_eq_div, toRat_eq_div, div_lt_div_iff₀ (tenTo_cast_pos _) (tenTo_cast_pos _)]
  show a.coeff * tenTo b.scale < b.coeff * tenTo a.scale ↔ _
  exact_mod_cast Iff.rfl

protected theorem le_refl (a : Decimal) : a ≤ a := le_iff_toRat_le.mpr (le_refl _)

protected theorem le_trans (h : a ≤ b) (h' : b ≤ c) : a ≤ c := by
  rw [le_iff_toRat_le] at *
  exact le_trans h h'

protected theorem le_of_lt (h : a < b) : a ≤ b :=
  le_iff_toRat_le.mpr (le_of_lt (lt_iff_toRat_lt.mp h))

protected theorem le_of_not_lt (h : ¬ a < b) : b ≤ a := by
  rw [lt_iff_toRat_lt] at h
  exact le_iff_toRat_le.mpr (not_lt.mp h)

theorem highest_mem (a b : Decimal) : a.highest b = a ∨ a.highest b = b := by
  simp only [highest]
  split
  · exact .inr rfl
  · exact .inl rfl

theorem lowest_mem (a b : Decimal) : a.lowest b = a ∨ a.lowest b = b := by
  simp only [lowest]
  split
  · exact .inr rfl
  · exact .inl rfl

theorem le_highest (a b : Decimal) : a ≤ a.highest b ∧ b ≤ a.highest b := by
  simp only [highest]
  split
  · next h => exact ⟨Decimal.le_of_lt h, Decimal.le_refl b⟩
  · next h => exact ⟨Decimal.le_refl a, Decimal.le_of_not_lt h⟩

theorem lowest_le (a b : Decimal) : a.lowest b ≤ a ∧ a.lowest b ≤ b := by
  simp only [lowest]
  split
  · next h => exact ⟨Decimal.le_of_lt h, Decimal.le_refl b⟩
  · next h => exact ⟨Decimal.le_refl a, Decimal.le_of_not_lt h⟩

/-- Choosing again and again between the value so far and the next one ends with one of the values,
and with one that is beyond them all. -/
theorem foldl_choice {pick : Decimal → Decimal → Decimal} (beyond : Decimal → Decimal → Prop)
    (refl : ∀ x, beyond x x) (trans : ∀ {x y z}, beyond x y → beyond y z → beyond x z)
    (mem : ∀ x y, pick x y = x ∨ pick x y = y)
    (ge : ∀ x y, beyond x (pick x y) ∧ beyond y (pick x y)) (a : Decimal) (ds : List Decimal) :
    ds.foldl pick a ∈ a :: ds ∧ ∀ d ∈ a :: ds, beyond d (ds.foldl pick a) := by
  induction ds generalizing a with
  | nil => simp [refl]
  | cons d ds ih =>
    obtain ⟨hmem, hge⟩ := ih (pick a d)
    have hpick := hge _ List.mem_cons_self
    rw [List.foldl_cons]
    constructor
    · rcases List.mem_cons.mp hmem with h | h
      · rw [h]
        rcases mem a d with h | h <;> simp [h]
      · simp [h]
    · intro x hx
      rcases List.mem_cons.mp hx with rfl | hx
      · exact trans (ge x d).1 hpick
      · rcases List.mem_cons.mp hx with rfl | hx
        · exact trans (ge a x).2 hpick
        · exact hge x (List.mem_cons_of_mem _ hx)

theorem foldl_highest (a : Decimal) (ds : List Decimal) :
    ds.foldl highest a ∈ a :: ds ∧ ∀ d ∈ a :: ds, d ≤ ds.foldl highest a :=
  foldl_choice (· ≤ ·) Decimal.le_refl Decimal.le_trans highest_mem le_highest a ds

theorem foldl_lowest (a : Decimal) (ds : List Decimal) :
    ds.foldl lowest a ∈ a :: ds ∧ ∀ d ∈ a :: ds, ds.foldl lowest a ≤ d :=
  foldl_choice (fun x y => y ≤ x) Decimal.le_refl (fun h h' => Decimal.le_trans h' h) lowest_mem
    lowest_le a ds

/-! ## Sums -/

theorem nonneg_iff : zero ≤ d ↔ 0 ≤ d.coeff := by
  show (0 : Int) * tenTo d.scale ≤ d.coeff * tenTo 0 ↔ _
  simp

theorem divHalfEven_nonneg {n : Int} (h : 0 ≤ n) (k : Nat) : 0 ≤ divHalfEven n k := by
  simp only [divHalfEven, if_neg (Int.not_lt.mpr h)]
  exact Int.natCast_nonneg _

theorem coeff_nonneg_of_fit? {n : Int} {scale : Nat} (hn : 0 ≤ n) (h : fit? n scale = some d) :
    0 ≤ d.coeff := by
  obtain ⟨dropped, -, hd⟩ := List.exists_of_findSome?_eq_some h
  rw [(coeff_of_ofCoeff? hd).1]
  exact divHalfEven_nonneg hn _

theorem add?_nonneg (ha : zero ≤ a) (hb : zero ≤ b) (h : a.add? b = some d) : zero ≤ d := by
  simp only [add?] at h
  split at h
  · cases h; exact hb
  · split at h
    · cases h; exact ha
    · rw [nonneg_iff] at *
      refine coeff_nonneg_of_fit? (Int.add_nonneg ?_ ?_) h
      · exact Int.mul_nonneg ha (Int.natCast_nonneg _)
      · exact Int.mul_nonneg hb (Int.natCast_nonneg _)

/-- The same number with the fraction digits of a larger scale. -/
theorem toRat_eq_scaled_div (d : Decimal) {scale : Nat} (h : d.scale ≤ scale) :
    d.toRat = (d.scaled (scale - d.scale) : Rat) / (tenTo scale : Nat) := by
  have hs : tenTo scale = tenTo d.scale * tenTo (scale - d.scale) := by
    rw [← tenTo_add, Nat.add_sub_cancel' h]
  rw [toRat_eq_div, scaled, div_eq_div_iff (tenTo_cast_pos _).ne' (tenTo_cast_pos _).ne', hs]
  push_cast
  ring

theorem toRat_of_magnitude_eq_zero (h : d.magnitude = 0) : d.toRat = 0 := by
  have hc : d.coeff = 0 := Int.natAbs_eq_zero.mp (d.natAbs_coeff.trans h)
  rw [toRat_eq_div, hc, Int.cast_zero, zero_div]

/-- A sum that needs at most 96 bits at the larger scale is exact. -/
theorem toRat_add? (h : (a.scaled (max a.scale b.scale - a.scale) +
      b.scaled (max a.scale b.scale - b.scale)).natAbs < coeffLimit) :
    ∃ d, a.add? b = some d ∧ d.toRat = a.toRat + b.toRat ∧ d.scale ≤ max a.scale b.scale := by
  simp only [add?]
  split
  · next ha => exact ⟨b, rfl, by rw [toRat_of_magnitude_eq_zero ha, zero_add], le_max_right _ _⟩
  · split
    · next hb => exact ⟨a, rfl, by rw [toRat_of_magnitude_eq_zero hb, add_zero], le_max_left _ _⟩
    · obtain ⟨d, hd⟩ : ∃ d, ofCoeff? (a.scaled (max a.scale b.scale - a.scale) +
          b.scaled (max a.scale b.scale - b.scale)) (max a.scale b.scale) = some d :=
        ⟨_, dif_pos ⟨h, max_le a.scale_le b.scale_le⟩⟩
      obtain ⟨hc, hs⟩ := coeff_of_ofCoeff? hd
      refine ⟨d, fit?_of_fits hd, ?_, hs.le⟩
      rw [a.toRat_eq_scaled_div (le_max_left a.scale b.scale),
        b.toRat_eq_scaled_div (le_max_right a.scale b.scale), toRat_eq_div, hc, hs, ← add_div]
      push_cast
      rfl

/-- A number is rounded to at least an even one exactly if it is at most a half below it. -/
theorem le_natAbs_divHalfEven {limit k : Nat} (hk : 0 < k) (heven : limit % 2 = 0) (n : Int) :
    limit ≤ (divHalfEven n k).natAbs ↔ 2 * (k * limit) ≤ 2 * n.natAbs + k := by
  have hn : (divHalfEven n k).natAbs =
      if 2 * (n.natAbs % k) < k ∨ (2 * (n.natAbs % k) = k ∧ n.natAbs / k % 2 = 0) then n.natAbs / k
      else n.natAbs / k + 1 := by
    simp only [divHalfEven]
    split <;> simp only [Int.natAbs_neg, Int.natAbs_natCast]
  have hsplit := Nat.div_add_mod n.natAbs k
  have hlt := Nat.mod_lt n.natAbs hk
  rw [hn]
  generalize n.natAbs / k = q at *
  generalize n.natAbs % k = r at *
  -- next to the quotient a half decides; what is further away is too far for it
  obtain hq | hq | hq : limit ≤ q ∨ q + 1 = limit ∨ q + 2 ≤ limit := by omega
  · have hmul := Nat.mul_le_mul_left k hq
    split <;> omega
  · have hmul : k * limit = k * q + k := by rw [← hq, Nat.mul_succ]
    split <;> omega
  · have hmul : k * q + k * 2 ≤ k * limit := Nat.mul_add k q 2 ▸ Nat.mul_le_mul_left k hq
    split <;> omega

/-- A number cannot be fitted exactly if it is too large without fraction digits. -/
theorem fit?_eq_none_iff {n : Int} {scale : Nat} (hscale : scale ≤ 28) :
    fit? n scale = none ↔ 2 * (tenTo scale * coeffLimit) ≤ 2 * n.natAbs + tenTo scale := by
  have hnone (dropped : Nat) : ofCoeff? (divHalfEven n (tenTo dropped)) (scale - dropped) = none ↔
      2 * (tenTo dropped * coeffLimit) ≤ 2 * n.natAbs + tenTo dropped := by
    rw [← le_natAbs_divHalfEven (tenTo_pos dropped) (by decide), ofCoeff?, ofSigned?]
    split <;> simp <;> omega
  simp only [fit?, List.findSome?_eq_none_iff, List.mem_range, hnone]
  refine ⟨fun h => h scale (Nat.lt_succ_self scale), fun h dropped hd => ?_⟩
  have hle : tenTo dropped ≤ tenTo scale :=
    Nat.pow_le_pow_right (by decide) (Nat.le_of_lt_succ hd)
  obtain ⟨below, hbelow⟩ : ∃ below, coeffLimit = below + 1 := Nat.exists_eq_add_one.mpr (by decide)
  have hmul := Nat.mul_le_mul_right below hle
  rw [hbelow, Nat.mul_succ] at h ⊢
  omega

theorem abs_toRat_lt (d : Decimal) : |d.toRat| < coeffLimit - 1 / 2 := by
  have hpos := tenTo_cast_pos d.scale
  have hmag : (d.magnitude : Rat) ≤ coeffLimit - 1 := by
    have hlt := d.magnitude_lt
    rw [le_sub_iff_add_le]
    exact_mod_cast hlt
  have habs : |d.toRat| ≤ d.magnitude := by
    rw [toRat_eq_div, abs_div, abs_of_pos hpos, div_le_iff₀ hpos, ← natAbs_coeff, Nat.cast_natAbs,
      Int.cast_abs]
    refine le_mul_of_one_le_right (abs_nonneg _) ?_
    exact_mod_cast tenTo_pos d.scale
  linarith

/-- **When a sum is too large.** Decimals have no sum exactly if the sum of their numbers lies half
a unit below the first number of more than 96 bits, or beyond, on either side of zero. -/
theorem add?_eq_none_iff : a.add? b = none ↔ (coeffLimit : Rat) - 1 / 2 ≤ |a.toRat + b.toRat| := by
  simp only [add?]
  split
  · next ha =>
    rw [toRat_of_magnitude_eq_zero ha, zero_add]
    simpa only [reduceCtorEq, false_iff, not_le] using abs_toRat_lt b
  · split
    · next hb =>
      rw [toRat_of_magnitude_eq_zero hb, add_zero]
      simpa only [reduceCtorEq, false_iff, not_le] using abs_toRat_lt a
    · rw [fit?_eq_none_iff (max_le a.scale_le b.scale_le),
        a.toRat_eq_scaled_div (le_max_left a.scale b.scale),
        b.toRat_eq_scaled_div (le_max_right a.scale b.scale), ← add_div, abs_div,
        abs_of_pos (tenTo_cast_pos _), le_div_iff₀ (tenTo_cast_pos _), ← Int.cast_add,
        ← Int.cast_abs, ← Nat.cast_natAbs, ← @Nat.cast_le Rat]
      push_cast
      constructor <;> intro h <;> linarith

/-- Decimals added up in their order, unless a sum is too large. -/
def total? (ds : List Decimal) : Option Decimal := ds.foldlM add? zero

@[simp] theorem total?_nil : total? [] = some zero := rfl

theorem total?_concat (ds : List Decimal) (d : Decimal) :
    total? (ds ++ [d]) = (total? ds).bind fun s => s.add? d := by
  simp [total?]

/-- If decimals have a sum, so have the first ones of them. -/
theorem total?_isSome_of_append {ds es : List Decimal} (h : (total? (ds ++ es)).isSome) :
    (total? ds).isSome := by
  rw [total?, List.foldlM_append] at h
  cases hd : total? ds with
  | none => rw [total?] at hd; rw [hd] at h; exact h
  | some s => rfl

/-- The sum of decimals that are not negative is not negative, also where it is rounded. -/
theorem total?_nonneg {ds : List Decimal} (hds : ∀ d ∈ ds, zero ≤ d) (h : total? ds = some d) :
    zero ≤ d := by
  induction ds using List.reverseRecOn generalizing d with
  | nil => cases h; exact Decimal.le_refl zero
  | append_singleton ds e ih =>
    rw [total?_concat] at h
    obtain ⟨s, hs, hd⟩ := Option.bind_eq_some_iff.mp h
    have hz := ih (fun x hx => hds x (List.mem_append_left _ hx)) hs
    exact add?_nonneg hz (hds e (List.mem_append_right _ List.mem_cons_self)) hd

/-- The digits of a decimal at a scale that is not smaller than its own, without the sign. -/
def digitsAt (scale : Nat) (d : Decimal) : Nat := d.magnitude * tenTo (scale - d.scale)

/-- The digits of the decimals at a scale that none of them exceeds need at most 96 bits together.
-/
def FitAt (scale : Nat) (ds : List Decimal) : Prop :=
  (∀ d ∈ ds, d.scale ≤ scale) ∧ (ds.map (digitsAt scale)).sum < coeffLimit

theorem natAbs_scaled (d : Decimal) (places : Nat) :
    (d.scaled places).natAbs = d.magnitude * tenTo places := by
  rw [scaled, Int.natAbs_mul, natAbs_coeff, Int.natAbs_natCast]

theorem digitsAt_eq {scale : Nat} (h : d.scale ≤ scale) :
    (digitsAt scale d : Rat) = |d.toRat| * (tenTo scale : Nat) := by
  rw [d.toRat_eq_scaled_div h, abs_div, abs_of_pos (tenTo_cast_pos scale),
    div_mul_cancel₀ _ (tenTo_cast_pos scale).ne', digitsAt, ← natAbs_scaled, Nat.cast_natAbs,
    Int.cast_abs]

/-- A sum of two decimals is exact if their digits at a common scale need at most 96 bits together,
and has no more digits than they have. -/
theorem toRat_add?_of_digitsAt {scale : Nat} (ha : a.scale ≤ scale) (hb : b.scale ≤ scale)
    (h : digitsAt scale a + digitsAt scale b < coeffLimit) :
    ∃ d, a.add? b = some d ∧ d.toRat = a.toRat + b.toRat ∧ d.scale ≤ scale ∧
      digitsAt scale d ≤ digitsAt scale a + digitsAt scale b := by
  have hm : max a.scale b.scale ≤ scale := max_le ha hb
  have digits_le {x : Decimal} (hx : x.scale ≤ max a.scale b.scale) :
      (x.scaled (max a.scale b.scale - x.scale)).natAbs ≤ digitsAt scale x := by
    rw [natAbs_scaled, digitsAt,
      show scale - x.scale =
        (max a.scale b.scale - x.scale) + (scale - max a.scale b.scale) by omega,
      tenTo_add, ← Nat.mul_assoc]
    exact Nat.le_mul_of_pos_right _ (tenTo_pos _)
  have hsum := Int.natAbs_add_le (a.scaled (max a.scale b.scale - a.scale))
    (b.scaled (max a.scale b.scale - b.scale))
  have hda := digits_le (le_max_left a.scale b.scale)
  have hdb := digits_le (le_max_right a.scale b.scale)
  obtain ⟨d, hd, hr, hs⟩ := toRat_add? (a := a) (b := b) (by omega)
  refine ⟨d, hd, hr, hs.trans hm, ?_⟩
  have hq : (digitsAt scale d : Rat) ≤ (digitsAt scale a + digitsAt scale b : Nat) := by
    rw [digitsAt_eq (hs.trans hm), hr, Nat.cast_add, digitsAt_eq ha, digitsAt_eq hb, ← add_mul]
    exact mul_le_mul_of_nonneg_right (abs_add_le _ _) (tenTo_cast_pos scale).le
  exact_mod_cast hq

/-- The sum of decimals whose digits at a common scale need at most 96 bits together is exact. -/
theorem toRat_total? {scale : Nat} {ds : List Decimal} (h : FitAt scale ds) :
    ∃ d, total? ds = some d ∧ d.toRat = (ds.map toRat).sum ∧ d.scale ≤ scale ∧
      digitsAt scale d ≤ (ds.map (digitsAt scale)).sum := by
  induction ds using List.reverseRecOn with
  | nil => exact ⟨zero, rfl, by simp [toRat_of_magnitude_eq_zero (d := zero) rfl], Nat.zero_le _, by
      simp [digitsAt, zero]⟩
  | append_singleton ds e ih =>
    obtain ⟨hscale, hlimit⟩ := h
    simp only [List.map_append, List.sum_append, List.map_cons, List.map_nil, List.sum_singleton]
      at hlimit ⊢
    obtain ⟨s, hs, hr, hsc, hsd⟩ := ih
      ⟨fun x hx => hscale x (List.mem_append_left _ hx), by omega⟩
    obtain ⟨d, hd, hdr, hdsc, hdd⟩ := toRat_add?_of_digitsAt hsc
      (hscale e (List.mem_append_right _ List.mem_cons_self)) (by omega)
    exact ⟨d, by rw [total?_concat, hs]; exact hd, by rw [hdr, hr], hdsc, by omega⟩

end TickChart.Decimal
