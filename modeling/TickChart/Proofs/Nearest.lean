import Mathlib.Tactic.Ring
import TickChart.Number.Double
import TickChart.Proofs.Digits

/-!
# The doubles of integers

An integer of more than 53 bits is rounded to that many when it becomes a double: shifted to the
right, with the last bit that goes and whether any before it is set, and rounded by these two.

* `shiftRight_succ`: what is left of a number that is shifted. `roundedMantissa_near`: it is rounded
  to the nearest one.
* `ofScientific_near`: the 53 bits of a number and their place.
* `magnitude_of_bits`: the parts of a double, from its bits.
* `magnitude_ofInt`: an integer below `2 ^ 64` is at most half a unit of its last place away from
  its double. `le_truncate_ofInt`: one from `2 ^ 63` on does not fall below that.
-/

namespace TickChart.Double

open Float.Model Float.Model.UnpackedFloat

/-! ## Rounding -/

theorem roundedMantissa_eq (q : Nat) (round sticky : Bool) :
    ExtendedMantissa.roundedMantissa ⟨q, round, sticky⟩ =
      q + if round then (if sticky then 1 else q % 2) else 0 := by
  cases round <;> cases sticky <;> rfl

/-- What is left of a number that is shifted by at least one place. -/
theorem shiftRight_succ (n k : Nat) :
    (⟨n, false, false⟩ : ExtendedMantissa) >>> (k + 1) =
      ⟨n / 2 ^ (k + 1), n / 2 ^ k % 2 != 0, n % 2 ^ k != 0⟩ := by
  have hrepeat (k : Nat) : (⟨n, false, false⟩ : ExtendedMantissa) >>> (k + 1) =
      ((⟨n, false, false⟩ : ExtendedMantissa) >>> k).shiftRightOne := rfl
  induction k with
  | zero =>
    rw [hrepeat]
    show ExtendedMantissa.shiftRightOne ⟨n, false, false⟩ = _
    simp [ExtendedMantissa.shiftRightOne, Nat.mod_one]
  | succ k ih =>
    have hsticky : (n / 2 ^ k % 2 != 0 || n % 2 ^ k != 0) = (n % 2 ^ (k + 1) != 0) := by
      rw [Bool.eq_iff_iff, Nat.pow_succ, Nat.mod_mul]
      simp
      grind
    rw [hrepeat, ih, ExtendedMantissa.shiftRightOne, hsticky, Nat.div_div_eq_div_mul,
      ← Nat.pow_succ]

/-- It is rounded to the nearest number: at most half a unit of its last place away. -/
theorem roundedMantissa_near (n k : Nat) :
    let rounded := ((⟨n, false, false⟩ : ExtendedMantissa) >>> (k + 1)).roundedMantissa
    rounded * 2 ^ (k + 1) ≤ n + 2 ^ k ∧ n ≤ rounded * 2 ^ (k + 1) + 2 ^ k ∧
      n / 2 ^ (k + 1) ≤ rounded ∧ rounded ≤ n / 2 ^ (k + 1) + 1 := by
  have hsplit : n = 2 * (2 ^ k * (n / 2 ^ (k + 1))) + 2 ^ k * (n / 2 ^ k % 2) + n % 2 ^ k := by
    have hhalf : n / 2 ^ (k + 1) = n / 2 ^ k / 2 := by rw [Nat.pow_succ, Nat.div_div_eq_div_mul]
    have hrest := Nat.div_add_mod (n / 2 ^ k) 2
    rw [hhalf, Nat.mul_left_comm, ← Nat.mul_add, hrest, Nat.div_add_mod]
  have hlt := Nat.mod_lt n (Nat.two_pow_pos k)
  have hmul (a : Nat) : a * 2 ^ (k + 1) = 2 * (2 ^ k * a) := by ring
  rw [shiftRight_succ, roundedMantissa_eq]
  generalize n / 2 ^ (k + 1) = q at *
  simp only [hmul, Nat.mul_add]
  obtain hbit | hbit := Nat.mod_two_eq_zero_or_one (n / 2 ^ k)
  · simp only [hbit, Nat.mul_zero] at hsplit ⊢
    simp
    omega
  · simp only [hbit, Nat.mul_one] at hsplit ⊢
    by_cases hsticky : n % 2 ^ k = 0
    · -- a tie: the even one of the two
      obtain hq | hq := Nat.mod_two_eq_zero_or_one q
      · simp [hsticky, hq]
        omega
      · simp [hsticky, hq]
        omega
    · simp [hsticky]
      omega

theorem log2_eq {m k : Nat} (h : 2 ^ k ≤ m) (h' : m < 2 ^ (k + 1)) : m.log2 = k := by
  have hpos := Nat.two_pow_pos k
  exact (Nat.log2_eq_iff (by omega)).mpr ⟨h, h'⟩

theorem targetExponent_eq {e : Int} (h : 0 ≤ e) : Format.binary64.targetExponent e = e - 53 := by
  have hbits : (Format.binary64.mantissaBits : Int) = 53 := rfl
  have hleast : Format.binary64.minExponent = -1074 := by decide
  rw [Format.targetExponent, hbits, hleast]
  omega

/-- Nothing is shifted where there are 53 bits. -/
theorem shiftToTarget_of_fits {m : Nat} {e : Int} (h : 2 ^ 52 ≤ m) (h' : m < 2 ^ 53) (he : 0 ≤ e) :
    shiftToTargetExponent Format.binary64 m e .exact = (⟨m, false, false⟩, e) := by
  have htarget : Format.binary64.targetExponent (totalExponent m e) = e := by
    rw [totalExponent, log2_eq h h', targetExponent_eq (by omega)]
    omega
  have hzero : (e - e).toNat = 0 := by omega
  rw [shiftToTargetExponent, htarget, shiftToExponent, hzero]
  show (_, e + (0 : Nat)) = _
  rw [Int.natCast_zero, Int.add_zero]
  rfl

theorem shiftToTarget_of_carry {e : Int} (he : 0 ≤ e) :
    shiftToTargetExponent Format.binary64 (2 ^ 53) e .exact = (⟨2 ^ 52, false, false⟩, e + 1) := by
  have htarget : Format.binary64.targetExponent (totalExponent (2 ^ 53) e) = e + 1 := by
    rw [totalExponent, log2_eq (k := 53) (by decide) (by decide), targetExponent_eq (by omega)]
    omega
  have hone : (e + 1 - e).toNat = 1 := by omega
  rw [shiftToTargetExponent, htarget, shiftToExponent, hone]
  rfl

/-- `m * 2 ^ e` is `n` rounded to 53 bits, where `n` has `53 + k` of them. -/
structure Nearest (n k m e : Nat) : Prop where
  le_bits : 2 ^ 52 ≤ m
  bits_lt : m < 2 ^ 53
  le_place : k ≤ e
  place_le : e ≤ k + 1
  le_double : 2 * (m * 2 ^ e) ≤ 2 * n + 2 ^ k
  double_le : 2 * n ≤ 2 * (m * 2 ^ e) + 2 ^ k

variable {n k m e : Nat}

/-- Of an integer of `53 + k` bits, with 53 more behind them, the first 53 are left. -/
theorem shiftToTarget_scaled (h : 2 ^ (k + 52) ≤ n) (h' : n < 2 ^ (k + 53)) :
    shiftToTargetExponent Format.binary64 (n * 2 ^ 53) (-53) .exact =
      ((⟨n * 2 ^ 53, false, false⟩ : ExtendedMantissa) >>> (k + 52 + 1), (k : Int)) := by
  have hlog : (n * 2 ^ 53).log2 = k + 105 := by
    apply log2_eq
    · calc 2 ^ (k + 105) = 2 ^ (k + 52) * 2 ^ 53 := by rw [← Nat.pow_add]
        _ ≤ n * 2 ^ 53 := Nat.mul_le_mul_right _ h
    · calc n * 2 ^ 53 < 2 ^ (k + 53) * 2 ^ 53 := Nat.mul_lt_mul_of_pos_right h' (by decide)
        _ = 2 ^ (k + 105 + 1) := by rw [← Nat.pow_add]
  have htarget : Format.binary64.targetExponent (totalExponent (n * 2 ^ 53) (-53)) = k := by
    rw [totalExponent, hlog, targetExponent_eq (by omega)]
    omega
  rw [shiftToTargetExponent, htarget, shiftToExponent,
    show ((k : Int) - -53).toNat = k + 52 + 1 by omega]
  show (_, _) = _
  congr 1
  omega

theorem roundWithAccuracy_near (h : 2 ^ (k + 52) ≤ n) (h' : n < 2 ^ (k + 53)) :
    ∃ m e hm, roundWithAccuracy Format.binary64 .positive (n * 2 ^ 53) (-53) .exact =
      .finite .positive m (e : Nat) hm ∧ Nearest n k m e := by
  have hquotient : n * 2 ^ 53 / 2 ^ (k + 52 + 1) = n / 2 ^ k := by
    rw [show k + 52 + 1 = k + 53 from rfl, Nat.pow_add, Nat.mul_div_mul_right _ _ (by decide)]
  have hlow : 2 ^ 52 ≤ n / 2 ^ k := by
    rw [Nat.le_div_iff_mul_le (Nat.two_pow_pos k), ← Nat.pow_add, Nat.add_comm]
    exact h
  have hhigh : n / 2 ^ k < 2 ^ 53 := by
    rw [Nat.div_lt_iff_lt_mul (Nat.two_pow_pos k), ← Nat.pow_add, Nat.add_comm]
    exact h'
  obtain ⟨hle, hge, hfloor, hceil⟩ := roundedMantissa_near (n * 2 ^ 53) (k + 52)
  rw [roundWithAccuracy, shiftToTarget_scaled h h']
  dsimp only
  generalize ExtendedMantissa.roundedMantissa _ = r at *
  rw [hquotient] at hfloor hceil
  have hnear : 2 * (r * 2 ^ k) ≤ 2 * n + 2 ^ k ∧ 2 * n ≤ 2 * (r * 2 ^ k) + 2 ^ k := by
    have hproduct : r * 2 ^ (k + 52 + 1) = 2 ^ 53 * (r * 2 ^ k) := by ring
    have hhalf : 2 ^ (k + 52) = 2 ^ 52 * 2 ^ k := by ring
    rw [hproduct, hhalf] at hle hge
    omega
  by_cases hcarry : r < 2 ^ 53
  · -- The rounded bits are 53.
    rw [shiftToTarget_of_fits (by omega) hcarry (by omega)]
    exact ⟨r, k, by omega, dif_neg (by show r ≠ 0; omega), by omega, hcarry, Nat.le_refl k,
      Nat.le_succ k, hnear.1, hnear.2⟩
  · -- Rounding up has carried into one bit more, and the place moves with it.
    obtain rfl : r = 2 ^ 53 := by omega
    have hplace : 2 ^ 52 * 2 ^ (k + 1) = 2 ^ 53 * 2 ^ k := by ring
    rw [shiftToTarget_of_carry (by omega)]
    exact ⟨2 ^ 52, k + 1, by decide, rfl, by decide, by decide, Nat.le_succ k, Nat.le_refl _,
      hplace ▸ hnear.1, hplace ▸ hnear.2⟩

theorem mul_finite {a b : Nat} (ha : 0 < a) (hb : 0 < b) (d e : Int) :
    UnpackedFloat.mul Format.binary64 (.finite .positive a d ha) (.finite .positive b e hb) =
      roundWithAccuracy Format.binary64 .positive (a * b) (d + e) .exact := rfl

/-- A number is rounded to 53 bits. -/
theorem ofScientific_near (h : 2 ^ (k + 52) ≤ n) (h' : n < 2 ^ (k + 53)) :
    ∃ m e hm, UnpackedFloat.ofScientific Format.binary64 n 0 =
      .finite .positive m (e : Nat) hm ∧ Nearest n k m e := by
  obtain ⟨m, e, hm, hround, hnear⟩ := roundWithAccuracy_near h h'
  have hpos : n ≠ 0 := by
    have hpower := Nat.two_pow_pos (k + 52)
    omega
  have hexponents : ¬ (0 : Int) < -((2 : Int) ^ Format.binary64.exponentBits + n.log2) := by
    have hlimit : (2 : Int) ^ Format.binary64.exponentBits = 2048 := rfl
    omega
  have hbits : Format.binary64.mantissaBits = 53 := rfl
  have hplace : -((53 : Nat) : Int) + 0 = -53 := by decide
  refine ⟨m, e, hm, ?_, hnear⟩
  rw [← hround, UnpackedFloat.ofScientific, dif_neg hpos, if_neg (by decide),
    if_neg hexponents, if_pos (Int.le_refl 0), mul_finite, Int.toNat_zero, Nat.pow_zero,
    Nat.mul_one, Nat.shiftLeft_eq, hbits, hplace]

/-! ## Bits -/

theorem toNat_packComponents (e : BitVec 11) (f : BitVec 52) :
    (packComponents Format.binary64 .positive e f).toNat = e.toNat * 2 ^ 52 + f.toNat := by
  have happend : packComponents Format.binary64 .positive e f =
      (Sign.toBitVec .positive ++ e : BitVec (1 + 11)) ++ f := rfl
  rw [happend, BitVec.toNat_append, BitVec.toNat_append, Nat.shiftLeft_eq, Nat.mul_comm,
    ← Nat.two_pow_add_eq_or_of_lt f.isLt]
  simp [Sign.toBitVec, Nat.mul_comm]

/-- What a number is packed into: an infinity, a normal number or one below these. -/
theorem pack_finite (e : Int) (hm : 0 < m) :
    UnpackedFloat.pack Format.binary64 (.finite .positive m e hm) =
      if 2 ^ 11 ≤ (e + (1023 : Nat) + (52 : Nat)).toNat + 1 then
        packedInfinity Format.binary64 .positive
      else if m.log2 + 1 = 53 then
        packComponents Format.binary64 .positive
          (BitVec.ofNat 11 (e + (1023 : Nat) + (52 : Nat)).toNat) (BitVec.ofNat 52 m)
      else packComponents Format.binary64 .positive 0#_ (BitVec.ofNat 52 m) := rfl

/-- The bits of a rounded number; beyond the range of doubles they are those of an infinity. -/
theorem toNat_pack (hm : 0 < m) (h : 2 ^ 52 ≤ m) (h' : m < 2 ^ 53) :
    (UnpackedFloat.pack Format.binary64 (.finite .positive m (e : Int) hm)).toNat =
      if e < 972 then (e + 1075) * 2 ^ 52 + (m - 2 ^ 52) else 2047 * 2 ^ 52 + 0 := by
  have hbiased : ((e : Int) + (1023 : Nat) + (52 : Nat)).toNat = e + 1075 := by omega
  have hnormal : m.log2 + 1 = 53 := by rw [log2_eq h h']
  rw [pack_finite, hbiased, if_pos hnormal]
  split
  · rw [if_neg (by omega)]
    rfl
  · rw [toNat_packComponents, if_pos (by omega), BitVec.toNat_ofNat, BitVec.toNat_ofNat]
    omega

theorem toNat_bits_ofInt (h : 2 ^ 53 ≤ n) (hdigits : (Text.digits n).length ≤ 400) :
    (ofInt n).bits.toNat = (UnpackedFloat.pack Format.binary64
      (UnpackedFloat.ofScientific Format.binary64 n 0)).toNat := by
  have hlong : ¬ (n < 2 ^ 53 ∧ 0 ≤ 22) := by omega
  have hfloat : Float.ofScientific n false 0 = ⟨Float.Model.ofScientific n 0⟩ := by
    rw [Float.ofScientific, dif_neg hlong]
    rfl
  have hnegative : ¬ (n : Int) < 0 := by omega
  rw [ofInt, ofScientific, decide_eq_false hnegative, Int.natAbs_natCast, if_neg (by omega),
    if_neg (by omega)]
  show (Float.ofScientific n false 0).toBits.toNat = _
  rw [hfloat]
  rfl

theorem exponentField_eq (x : Double) : x.exponentField = x.bits.toNat / 2 ^ 52 % 2 ^ 11 := by
  have hmask : (0x7FF : Nat) = 2 ^ 11 - 1 := rfl
  simp only [exponentField, UInt64.toNat_and, UInt64.toNat_shiftRight, UInt64.reduceToNat,
    Nat.reduceMod, Nat.shiftRight_eq_div_pow]
  rw [hmask, Nat.and_two_pow_sub_one_eq_mod]

theorem fractionField_eq (x : Double) : x.fractionField = x.bits.toNat % 2 ^ 52 := by
  have hmask : (0xFFFFFFFFFFFFF : Nat) = 2 ^ 52 - 1 := rfl
  simp only [fractionField, UInt64.toNat_and, UInt64.reduceToNat]
  rw [hmask, Nat.and_two_pow_sub_one_eq_mod]

theorem negative_eq_false_iff (x : Double) : x.negative = false ↔ x.bits.toNat < 2 ^ 63 := by
  have hlt := x.bits.toNat_lt
  simp only [negative, beq_eq_false_iff_ne, ne_eq, ← UInt64.toNat_inj, UInt64.toNat_shiftRight,
    UInt64.reduceToNat, Nat.reduceMod, Nat.shiftRight_eq_div_pow]
  omega

/-- The parts of a double, from its bits as one number. -/
theorem magnitude_of_bits {x : Double} {e f : Nat} (he : 0 < e) (he' : e < 2 ^ 11)
    (hf : f < 2 ^ 52) (h : x.bits.toNat = e * 2 ^ 52 + f) :
    x.negative = false ∧ x.magnitude = (2 ^ 52 + f, (e : Int) - 1075) := by
  have hexponent : x.exponentField = e := by rw [exponentField_eq, h]; omega
  have hfraction : x.fractionField = f := by rw [fractionField_eq, h]; omega
  refine ⟨(negative_eq_false_iff x).mpr (by omega), ?_⟩
  rw [magnitude, if_neg (by omega), hexponent, hfraction]
  rfl

theorem natAbs_truncate {x : Double} (h : x.magnitude = (m, (e : Int))) :
    x.truncate.natAbs = m * 2 ^ e := by
  rw [truncate, h]
  simp only [Int.natCast_nonneg, ↓reduceIte, Int.toNat_natCast]
  split
  · exact Int.natAbs_neg _
  · rfl

theorem truncate_nonneg {x : Double} (h : x.negative = false) : 0 ≤ x.truncate := by
  rw [truncate, h]
  exact Int.natCast_nonneg _

/-- A number of 53 bits with at least eleven zeros behind them is beyond 63 bits. -/
theorem le_natAbs_truncate {x : Double} (h : x.magnitude = (m, (e : Int))) (hm : 2 ^ 52 ≤ m)
    (he : 11 ≤ e) : 2 ^ 63 ≤ x.truncate.natAbs := by
  have hpower : 2 ^ 11 ≤ 2 ^ e := Nat.pow_le_pow_right (by decide) he
  calc 2 ^ 63 = 2 ^ 52 * 2 ^ 11 := rfl
    _ ≤ m * 2 ^ e := Nat.mul_le_mul hm hpower
    _ = x.truncate.natAbs := (natAbs_truncate h).symm

/-! ## Integers -/

/-- **The double of an integer below `2 ^ 64`** that has more than 53 bits. -/
theorem magnitude_ofInt (h : 2 ^ (k + 52) ≤ n) (h' : n < 2 ^ (k + 53)) (hk : 0 < k)
    (hk' : k ≤ 11) :
    ∃ m e : Nat, (ofInt n).negative = false ∧ (ofInt n).magnitude = (m, (e : Int)) ∧
      Nearest n k m e := by
  obtain ⟨m, e, hm, hround, hnear⟩ := ofScientific_near h h'
  have hlow : 2 ^ 53 ≤ n := Nat.le_trans (Nat.pow_le_pow_right (by decide) (by omega)) h
  have hdigits : (Text.digits n).length ≤ 400 := by
    have hlt : n < 2 ^ 64 :=
      Nat.lt_of_lt_of_le h' (Nat.pow_le_pow_right (by decide) (by omega))
    have hten : n < tenTo 20 := Nat.lt_trans hlt (by decide)
    have hlength := Text.length_digitsOf_le (by decide) hten
    rw [Text.digits_eq, Text.length_written]
    omega
  have hbits := toNat_bits_ofInt hlow hdigits
  have hle := hnear.le_bits
  have hlt := hnear.bits_lt
  have hplace := hnear.place_le
  rw [hround, toNat_pack hm hle hlt, if_pos (by omega)] at hbits
  obtain ⟨hsign, hparts⟩ := magnitude_of_bits (by omega) (by omega) (by omega) hbits
  refine ⟨m, e, hsign, ?_, hnear⟩
  rw [hparts, Prod.mk.injEq]
  omega

/-- An integer from `2 ^ 63` on is not made smaller than that, also where its double is infinite
and is taken for `2 ^ 1024`. -/
theorem le_truncate_ofInt (h : 2 ^ 63 ≤ n) : 2 ^ 63 ≤ (ofInt n).truncate := by
  suffices hbits : ∃ e f : Nat, 1086 ≤ e ∧ e < 2 ^ 11 ∧ f < 2 ^ 52 ∧
      (ofInt n).bits.toNat = e * 2 ^ 52 + f by
    obtain ⟨e, f, he, he', hf, hbits⟩ := hbits
    obtain ⟨hsign, hparts⟩ := magnitude_of_bits (by omega) he' hf hbits
    have hplace : (e : Int) - 1075 = (e - 1075 : Nat) := by omega
    have hlarge := le_natAbs_truncate (hplace ▸ hparts) (by omega) (by omega)
    have hsigned := truncate_nonneg hsign
    omega
  by_cases hdigits : (Text.digits n).length ≤ 400
  · -- The nearest double is finite, or the exponent is too large for one.
    have hlog : 63 ≤ n.log2 := (Nat.le_log2 (by omega)).mpr h
    have hlow : 2 ^ (n.log2 - 52 + 52) ≤ n := by
      rw [Nat.sub_add_cancel (by omega)]
      exact Nat.log2_self_le (by omega)
    have hhigh : n < 2 ^ (n.log2 - 52 + 53) := by
      rw [show n.log2 - 52 + 53 = n.log2 + 1 by omega]
      exact Nat.lt_log2_self
    obtain ⟨m, e, hm, hround, hnear⟩ := ofScientific_near hlow hhigh
    have hle := hnear.le_bits
    have hlt := hnear.bits_lt
    have hplace := hnear.le_place
    rw [toNat_bits_ofInt (by omega) hdigits, hround, toNat_pack hm hle hlt]
    split
    · exact ⟨e + 1075, m - 2 ^ 52, by omega, by omega, by omega, rfl⟩
    · exact ⟨2047, 0, by decide, by decide, by decide, rfl⟩
  · -- An integer of more than 400 digits is not even scaled.
    have hnegative : ¬ (n : Int) < 0 := by omega
    rw [ofInt, ofScientific, decide_eq_false hnegative, Int.natAbs_natCast, if_neg (by omega),
      if_pos (by omega)]
    exact ⟨2047, 0, by decide, by decide, by decide, by decide +kernel⟩

end TickChart.Double
