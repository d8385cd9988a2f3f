import Mathlib.Data.Rat.Floor
import Mathlib.Tactic.Linarith
import TickChart.Backend.History
import TickChart.Proofs.Nearest
import TickChart.Proofs.Notations

/-!
# Buckets of instants

A value of a row denotes an exact instant: a text by its notation, a number by its own value in
seconds, with a fraction and before 1970 too. The bucket that comes of it holds that instant, with
one exception. A double loses its fraction towards zero, so that one between the last second before
a bucket and its start comes into that bucket.

* `Double.value`: the number that a double is. `truncate_of_nonneg`, `truncate_of_negative`: its
  integer part.
* `Value.Denotes`: the instants of values. `Value.RoundedUp`: the exception.
* `seconds_of_int`, `seconds_of_double`: the whole second that a number is read as.
* `Timeframe.Contains`: the instants of a bucket. `contains_of_floor`, `contains_of_ceil`: the
  bucket of an instant that was rounded.
* `instants_in_buckets`: the bucket of a value, of two values, and of a row.
-/

namespace TickChart

open Json

namespace Double

variable {x : Double}

/-- The number that a finite double is. -/
def value (x : Double) : ℚ :=
  let size : ℚ := x.magnitude.1 * 2 ^ x.magnitude.2
  if x.negative then -size else size

/-- The integer part of a natural number that is moved by binary places. -/
theorem shifted_bounds (m : Nat) (e : Int) :
    let whole : Nat := if 0 ≤ e then m * twoTo e.toNat else m / twoTo (-e).toNat
    (whole : ℚ) ≤ m * 2 ^ e ∧ (m : ℚ) * 2 ^ e < whole + 1 := by
  by_cases he : 0 ≤ e
  · obtain ⟨k, rfl⟩ := Int.eq_ofNat_of_zero_le he
    have hsize : ((m * twoTo k : Nat) : ℚ) = m * 2 ^ (k : Int) := by
      show ((m * 2 ^ k : Nat) : ℚ) = _
      push_cast
      rw [zpow_natCast]
    simp only [if_pos he, Int.toNat_natCast, hsize]
    exact ⟨le_refl _, lt_add_one _⟩
  · obtain ⟨k, hk⟩ := Int.eq_ofNat_of_zero_le (show 0 ≤ -e by omega)
    have hpos : (0 : ℚ) < 2 ^ k := by positivity
    have hsize : (m : ℚ) * 2 ^ e = m / 2 ^ k := by
      rw [show e = -(k : Int) by omega, zpow_neg, zpow_natCast, div_eq_mul_inv]
    have hdivision := Nat.div_add_mod m (2 ^ k)
    have hremainder := Nat.mod_lt m (Nat.two_pow_pos k)
    have hle : m / 2 ^ k * 2 ^ k ≤ m := Nat.div_mul_le_self m _
    have hlt : m < (m / 2 ^ k + 1) * 2 ^ k := by
      rw [Nat.add_mul, Nat.mul_comm]
      omega
    simp only [if_neg he, hk, Int.toNat_natCast, hsize]
    rw [le_div_iff₀ hpos, div_lt_iff₀ hpos]
    exact ⟨by exact_mod_cast hle, by exact_mod_cast hlt⟩

/-- A double that is not negative loses its fraction downwards. -/
theorem truncate_of_nonneg (h : x.negative = false) :
    x.truncate ≤ x.value ∧ x.value < x.truncate + 1 := by
  have hbounds := shifted_bounds x.magnitude.1 x.magnitude.2
  simp only [truncate, value, h, Bool.false_eq_true, ↓reduceIte, Int.cast_natCast]
  exact hbounds

/-- A negative one loses it upwards. -/
theorem truncate_of_negative (h : x.negative = true) :
    x.truncate - 1 < x.value ∧ x.value ≤ x.truncate := by
  obtain ⟨hle, hlt⟩ := shifted_bounds x.magnitude.1 x.magnitude.2
  simp only [truncate, value, h, ↓reduceIte, Int.cast_neg, Int.cast_natCast]
  constructor <;> linarith

theorem size_nonneg (x : Double) : (0 : ℚ) ≤ x.magnitude.1 * 2 ^ x.magnitude.2 :=
  mul_nonneg (Nat.cast_nonneg _) (zpow_nonneg zero_le_two _)

theorem value_nonpos (h : x.negative = true) : x.value ≤ 0 := by
  simp only [value, h, ↓reduceIte]
  exact neg_nonpos.mpr x.size_nonneg

theorem value_nonneg (h : x.negative = false) : 0 ≤ x.value := by
  simp only [value, h, Bool.false_eq_true, ↓reduceIte]
  exact x.size_nonneg

/-- An infinity, or what is no number, is beyond 63 bits. -/
theorem le_natAbs_truncate_of_not_finite (h : x.isFinite = false) :
    2 ^ 63 ≤ x.truncate.natAbs := by
  have hexponent : x.exponentField = 2047 := by simpa [isFinite] using h
  have hparts : x.magnitude = (twoTo 52 + x.fractionField, ((972 : Nat) : Int)) := by
    rw [magnitude, hexponent]
    rfl
  exact le_natAbs_truncate hparts (Nat.le_add_right _ _) (by decide)

end Double

/-! ## Values -/

namespace Json.Value

/-- The instant that a value denotes, in seconds since 1970. -/
inductive Denotes : Value → ℚ → Prop where
  | text {s : String} {q : ℚ} (h : Time.Denotes (Text.trim s.toList) q) : Denotes (.string s) q
  | int (n : Int) : Denotes (.number (.int n)) n
  | double {x : Double} (hfinite : x.isFinite = true) : Denotes (.number (.double x)) x.value

/-- The value is a double with a fraction in the last second before a bucket that begins in 1970 or
earlier. -/
def RoundedUp (f : Timeframe) (v : Value) : Prop :=
  ∃ x, v = .number (.double x) ∧ x.value < 0 ∧ x.value < ⌈x.value⌉ ∧
    (f.seconds : Int) ∣ ⌈x.value⌉

end Json.Value

variable {v w : Value} {t u : Instant} {f : Timeframe} {q : ℚ} {n : Int} {x : Double}

/-- A number of seconds that is an instant is within 64 bits. -/
theorem seconds_of_clamped (h : Instant.ofSeconds? (clampSigned n) = some t) :
    t.seconds = n ∧ n.natAbs < 2 ^ 63 := by
  have hseconds := (Instant.mk?_eq_some_iff.mp h).1
  have hfirst := t.first_le
  have hlast := t.le_last
  simp only [clampSigned, leastInt, greatestSigned, firstSecond, lastSecond] at *
  omega

theorem seconds_of_int (h : Value.instant? (.number (.int n)) = some t) : t.seconds = n := by
  by_cases hsigned : n ≤ greatestSigned
  · have hseconds : (Number.int n).seconds = n := by
      rw [Number.seconds, Number.signed?, if_pos hsigned, Option.getD_some]
    rw [Value.instant?, hseconds] at h
    exact (Instant.mk?_eq_some_iff.mp h).1
  · -- its double is beyond 63 bits as well
    have hseconds : (Number.int n).seconds = clampSigned (Double.ofInt n).truncate := by
      rw [Number.seconds, Number.signed?, if_neg hsigned, Option.getD_none, Number.toDouble]
    rw [Value.instant?, hseconds] at h
    rw [greatestSigned] at hsigned
    obtain ⟨k, rfl⟩ := Int.eq_ofNat_of_zero_le (show 0 ≤ n by omega)
    have hlarge := Double.le_truncate_ofInt (n := k) (by omega)
    have hsmall := (seconds_of_clamped h).2
    omega

theorem seconds_of_double (h : Value.instant? (.number (.double x)) = some t) :
    x.isFinite = true ∧ t.seconds = x.truncate := by
  obtain ⟨hseconds, hsmall⟩ := seconds_of_clamped (n := x.truncate) h
  refine ⟨?_, hseconds⟩
  by_contra hinfinite
  have hlarge := Double.le_natAbs_truncate_of_not_finite (Bool.not_eq_true _ ▸ hinfinite)
  omega

/-! ## Buckets -/

/-- The instant lies in the bucket that begins at the second `b`. -/
def Timeframe.Contains (f : Timeframe) (b : Int) (q : ℚ) : Prop := b ≤ q ∧ q < b + f.seconds

theorem Timeframe.contains_of_floor (hle : n ≤ q) (hlt : q < n + 1) :
    f.Contains (f.bucketStart n) q := by
  have hstart : (f.bucketStart n : ℚ) ≤ n := by exact_mod_cast f.bucketStart_le n
  have hstop : (n : ℚ) + 1 ≤ f.bucketStart n + f.seconds := by
    exact_mod_cast f.lt_bucketStart_add n
  exact ⟨hstart.trans hle, hlt.trans_le hstop⟩

theorem Timeframe.dvd_bucketStart (f : Timeframe) (n : Int) : (f.seconds : Int) ∣ f.bucketStart n :=
  Int.dvd_mul_left _ _

theorem Timeframe.bucketStart_of_dvd (h : (f.seconds : Int) ∣ n) : f.bucketStart n = n :=
  Int.ediv_mul_cancel h

/-- A second that an instant was rounded up to is in the bucket of the instant, unless it begins
one. -/
theorem Timeframe.contains_of_ceil (hlt : n - 1 < q) (hle : q ≤ n)
    (h : ¬ (q < n ∧ (f.seconds : Int) ∣ n)) : f.Contains (f.bucketStart n) q := by
  rcases hle.lt_or_eq with hbelow | rfl
  · have hne : f.bucketStart n ≠ n := fun heq => h ⟨hbelow, heq ▸ f.dvd_bucketStart n⟩
    have hstart : f.bucketStart n ≤ n - 1 := by
      have hle := f.bucketStart_le n
      omega
    have hstart' : (f.bucketStart n : ℚ) ≤ n - 1 := by exact_mod_cast hstart
    have hstop : (n : ℚ) < f.bucketStart n + f.seconds := by
      exact_mod_cast f.lt_bucketStart_add n
    exact ⟨hstart'.trans hlt.le, hbelow.trans hstop⟩
  · exact contains_of_floor le_rfl (lt_add_one _)

/-- Two buckets that hold one instant are the same. -/
theorem Timeframe.eq_of_contains {b c : Int} (hb : (f.seconds : Int) ∣ b)
    (hc : (f.seconds : Int) ∣ c) (h : f.Contains b q) (h' : f.Contains c q) : b = c := by
  have hlt : b < c + f.seconds := by exact_mod_cast h.1.trans_lt h'.2
  have hlt' : c < b + f.seconds := by exact_mod_cast h'.1.trans_lt h.2
  obtain ⟨i, rfl⟩ := hb
  obtain ⟨j, rfl⟩ := hc
  cases f <;> simp only [Timeframe.seconds] at * <;> omega

theorem exists_denotes (h : v.instant? = some t) : ∃ q, v.Denotes q := by
  cases v with
  | string s =>
    obtain ⟨⟨q, hq⟩, -⟩ := Time.denotes_of_readInstant? h
    exact ⟨q, .text hq⟩
  | number n =>
    cases n with
    | int n => exact ⟨n, .int n⟩
    | double x => exact ⟨x.value, .double (seconds_of_double h).1⟩
  | null => cases h
  | bool b => cases h
  | array vs => cases h
  | object ms => cases h

/-- A double that is read comes into its bucket, or into the one whose start it was rounded up
to. -/
theorem bucket_of_double (h : Value.instant? (.number (.double x)) = some t) :
    (¬ Value.RoundedUp f (.number (.double x)) → f.Contains (f.bucketStart t.seconds) x.value) ∧
      (Value.RoundedUp f (.number (.double x)) →
        f.bucketStart t.seconds - 1 < x.value ∧ x.value < f.bucketStart t.seconds) := by
  rw [(seconds_of_double h).2]
  cases hsign : x.negative with
  | false =>
    obtain ⟨hle, hlt⟩ := x.truncate_of_nonneg hsign
    refine ⟨fun _ => Timeframe.contains_of_floor hle hlt, ?_⟩
    rintro ⟨y, heq, hneg, -, -⟩
    cases heq
    exact absurd (x.value_nonneg hsign) (not_le.mpr hneg)
  | true =>
    obtain ⟨hlt, hle⟩ := x.truncate_of_negative hsign
    have hceil : ⌈x.value⌉ = x.truncate := Int.ceil_eq_iff.mpr ⟨hlt, hle⟩
    constructor
    · intro hkept
      refine Timeframe.contains_of_ceil hlt hle fun ⟨hbelow, hdvd⟩ => hkept ?_
      have hneg : x.value < 0 := by
        refine (x.value_nonpos hsign).lt_of_ne fun hzero => ?_
        rw [hzero] at hbelow hceil
        rw [← hceil, Int.ceil_zero] at hbelow
        exact lt_irrefl _ hbelow
      exact ⟨x, rfl, hneg, by rwa [hceil], by rwa [hceil]⟩
    · rintro ⟨y, heq, -, hbelow, hdvd⟩
      cases heq
      rw [hceil] at hbelow hdvd
      rw [Timeframe.bucketStart_of_dvd hdvd]
      exact ⟨hlt, hbelow⟩

/-- The bucket of a value that is read. -/
theorem bucket_of_value (h : v.instant? = some t) (hq : v.Denotes q) :
    (¬ v.RoundedUp f → f.Contains (f.bucketStart t.seconds) q) ∧
      (v.RoundedUp f → f.bucketStart t.seconds - 1 < q ∧ q < f.bucketStart t.seconds) := by
  cases hq with
  | text hq =>
    obtain ⟨hle, hlt⟩ := (Time.denotes_of_readInstant? h).2 _ hq
    exact ⟨fun _ => Timeframe.contains_of_floor hle hlt, fun ⟨_, heq, _⟩ => nomatch heq⟩
  | int n =>
    rw [seconds_of_int h]
    exact ⟨fun _ => Timeframe.contains_of_floor le_rfl (lt_add_one _),
      fun ⟨_, heq, _⟩ => nomatch heq⟩
  | double hfinite => exact bucket_of_double h

/-- **Buckets of instants.** Every value that is read denotes an instant, and whatever it denotes
lies in its bucket, unless the value is rounded up to the start of that; then the instant is in the
last second before it. So two values of one instant that are not rounded up to a start come into one
bucket, and the candle of a row is in the bucket of the instant of its time. -/
theorem instants_in_buckets (f : Timeframe) :
    (∀ v t, Value.instant? v = some t → (∃ q, v.Denotes q) ∧ ∀ q, v.Denotes q →
      (¬ v.RoundedUp f → f.Contains (f.bucketStart t.seconds) q) ∧
      (v.RoundedUp f → f.bucketStart t.seconds - 1 < q ∧ q < f.bucketStart t.seconds)) ∧
      (∀ v w t u q, Value.instant? v = some t → Value.instant? w = some u →
        v.Denotes q → w.Denotes q → ¬ v.RoundedUp f → ¬ w.RoundedUp f →
          f.bucketStart t.seconds = f.bucketStart u.seconds) ∧
      ∀ row c, Candle.ofRow? f row = some c →
        ∃ v q, (row.get? "timestamp" <|> row.get? "time") = some v ∧ v.Denotes q ∧
          (¬ v.RoundedUp f → f.Contains c.bucketStart q) := by
  refine ⟨fun v t h => ⟨exists_denotes h, fun q hq => bucket_of_value h hq⟩, ?_, ?_⟩
  · intro v w t u q ht hu hv hw hkept hkept'
    have hcontains := (bucket_of_value ht hv).1 hkept
    have hcontains' := (bucket_of_value hu hw).1 hkept'
    exact Timeframe.eq_of_contains (f.dvd_bucketStart _) (f.dvd_bucketStart _) hcontains hcontains'
  · intro row c h
    simp only [Candle.ofRow?, bind, Option.bind_eq_some_iff, Option.some.injEq] at h
    obtain ⟨t, htime, _, -, _, -, _, -, _, -, rfl⟩ := h
    obtain ⟨v, hv, ht⟩ := Option.bind_eq_some_iff.mp htime
    obtain ⟨q, hq⟩ := exists_denotes ht
    exact ⟨v, q, hv, hq, (bucket_of_value ht hq).1⟩

theorem denotes_half_number : Value.Denotes (.number (.double ⟨0xBFE0000000000000⟩)) (-1 / 2) := by
  have hparts : Double.magnitude ⟨0xBFE0000000000000⟩ = (2 ^ 52, -53) := by decide
  have hsign : Double.negative ⟨0xBFE0000000000000⟩ = true := by decide
  have hvalue : Double.value ⟨0xBFE0000000000000⟩ = -1 / 2 := by
    simp only [Double.value, hparts, hsign, ↓reduceIte]
    norm_num
  exact hvalue ▸ .double (by decide)

theorem denotes_half_text : Value.Denotes (.string "1969-12-31T23:59:59.5Z") (-1 / 2) := by
  let shown : Time.Shown := ⟨⟨(1969 : Nat), 12, 31⟩, 23, 59, 59, (5 : Nat) / (10 : Nat), 0⟩
  have htwo (a b : Nat) (ha : a < 10) (hb : b < 10) :
      Time.Digits 2 2 (Text.written [a, b]) (10 * a + b) :=
    ⟨[a, b], by simp [ha, hb], le_rfl, le_rfl, rfl, by simp⟩
  have hyear : Time.Digits 4 4 (Text.written [1, 9, 6, 9]) 1969 :=
    ⟨[1, 9, 6, 9], by decide, le_rfl, le_rfl, rfl, rfl⟩
  have hpart : Time.Fraction ('.' :: Text.written [5]) ((5 : Nat) / (10 : Nat)) :=
    .point (by decide : ∀ d ∈ [5], d < 10) (List.cons_ne_nil 5 [])
  have htext : Time.StrictText (Text.trim "1969-12-31T23:59:59.5Z".toList) shown :=
    .mk hyear (htwo 1 2 (by decide) (by decide)) (htwo 3 1 (by decide) (by decide)) (.inl rfl)
      (htwo 2 3 (by decide) (by decide)) (htwo 5 9 (by decide) (by decide))
      (htwo 5 9 (by decide) (by decide)) hpart (.utc (.inl rfl)) (by decide)
  have hseconds : shown.seconds = -1 := by decide +kernel
  have hinstant : shown.instant = -1 / 2 := by
    rw [Time.Shown.instant, hseconds]
    norm_num [shown]
  exact hinstant ▸ .text (.strict htext ⟨by decide, by decide, by decide, by decide⟩)

/-- Half a second before 1970, as a number and as text: two buckets. -/
theorem instants_in_buckets_half :
    let number : Value := .number (.double ⟨0xBFE0000000000000⟩)
    let text : Value := .string "1969-12-31T23:59:59.5Z"
    Value.read? "-0.5" = some number ∧
      (number.Denotes (-1 / 2) ∧
        number.instant?.map (Timeframe.m1.bucketStart ·.seconds) = some 0) ∧
      (text.Denotes (-1 / 2) ∧
        text.instant?.map (Timeframe.m1.bucketStart ·.seconds) = some (-60)) ∧
      ¬ Timeframe.m1.Contains 0 (-1 / 2) := by
  intro number text
  have hdocument : Document.read? "-0.5" = some (.number ⟨true, [0], [5], none⟩) := rfl
  have hnumber : Literal.number? ⟨true, [0], [5], none⟩ =
      some (.double ⟨0xBFE0000000000000⟩) := by decide +kernel
  have hread : Value.read? "-0.5" = some number := by
    rw [Value.read?, hdocument, Option.bind_some, Document.valueWithin?, hnumber, Option.map_some]
  refine ⟨hread, ⟨denotes_half_number, by decide +kernel⟩,
    ⟨denotes_half_text, by decide +kernel⟩, ?_⟩
  rintro ⟨hle, -⟩
  norm_num at hle

end TickChart
