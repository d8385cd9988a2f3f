import TickChart.Market.Candle
import TickChart.Proofs.Buckets

/-!
# The grid of buckets

A bucket starts at the last multiple of its length that is not after a second of it, before 1970
too. All lengths are multiples of the shorter ones, and the first instant that there is begins a
bucket of each of them. So the start of a bucket does not leave the range of instants, and integers
of 64 signed bits suffice to find it.

* `signedStart?`: the start by operations of 64 signed bits. `signedStart?_eq`: it is missing only
  where the start itself is beyond them.
* `bucketStart_firstSecond`, `firstSecond_le_bucketStart`: the lower end of the grid.
* `bucket_grid`: the start of a second that is an instant.
-/

namespace TickChart

open Json

variable {f : Timeframe} {t n : Int}

/-! ## Integers of 64 signed bits -/

/-- An integer that 64 signed bits hold. -/
def signed? (n : Int) : Option Int := if leastInt ≤ n ∧ n ≤ greatestSigned then some n else none

theorem signed?_of_bounds (hleast : leastInt ≤ n) (hgreatest : n ≤ greatestSigned) :
    signed? n = some n := if_pos ⟨hleast, hgreatest⟩

namespace Timeframe

/-- The start of the bucket that holds the second `t`, by operations of 64 signed bits: the quotient
without its fraction, one less if the remainder is negative, and the product with the length. -/
def signedStart? (f : Timeframe) (t : Int) : Option Int := do
  let quotient ← signed? (t.tdiv f.seconds)
  let whole ← if t.tmod f.seconds < 0 then signed? (quotient - 1) else some quotient
  signed? (whole * f.seconds)

/-- The quotient without its fraction is the next one where the remainder is negative. -/
theorem tdiv_cases (f : Timeframe) (t : Int) :
    t.tdiv f.seconds = t / f.seconds ∧ ¬ t.tmod f.seconds < 0 ∨
      t < 0 ∧ t.tdiv f.seconds - 1 = t / f.seconds ∧ t.tmod f.seconds < 0 := by
  have hpos : (0 : Int) < f.seconds := Int.natCast_pos.mpr f.seconds_pos
  have hnonneg := Int.emod_nonneg t hpos.ne'
  have hlt := Int.emod_lt_of_pos t hpos
  rw [Int.tdiv_eq_ediv, Int.tmod_eq_emod, Int.sign_eq_one_of_pos hpos, Int.natAbs_natCast]
  split
  · left
    omega
  · right
    omega

/-- A quotient is not farther from zero than what is divided. -/
theorem ediv_bounds (f : Timeframe) (t : Int) :
    (0 ≤ t → 0 ≤ t / f.seconds ∧ t / f.seconds ≤ t) ∧
      (t < 0 → t ≤ t / f.seconds ∧ t / f.seconds < 0) := by
  cases f <;> simp only [seconds] <;> omega

/-- Only the product can overflow. -/
theorem signedStart?_eq (hleast : leastInt ≤ t) (hgreatest : t ≤ greatestSigned) :
    f.signedStart? t = signed? (f.bucketStart t) := by
  have hbounds := f.ediv_bounds t
  rw [leastInt] at hleast
  rw [greatestSigned] at hgreatest
  have hwhole : signed? (t / f.seconds) = some (t / f.seconds) :=
    signed?_of_bounds (by rw [leastInt]; omega) (by rw [greatestSigned]; omega)
  rcases f.tdiv_cases t with ⟨hquotient, hmod⟩ | ⟨hneg, hquotient, hmod⟩
  · simp only [signedStart?, hquotient, hwhole, if_neg hmod, Option.bind_eq_bind, Option.bind_some,
      bucketStart]
  · have hnext : signed? (t.tdiv f.seconds) = some (t.tdiv f.seconds) :=
      signed?_of_bounds (by rw [leastInt]; omega) (by rw [greatestSigned]; omega)
    simp only [signedStart?, hnext, hquotient, hwhole, if_pos hmod, Option.bind_eq_bind,
      Option.bind_some, bucketStart]

/-! ## Instants -/

theorem bucketStart_firstSecond (f : Timeframe) : f.bucketStart firstSecond = firstSecond := by
  cases f <;> decide

/-- The bucket of an instant starts at one. -/
theorem firstSecond_le_bucketStart (h : firstSecond ≤ t) : firstSecond ≤ f.bucketStart t := by
  calc firstSecond
      = f.bucketStart firstSecond := f.bucketStart_firstSecond.symm
    _ ≤ f.bucketStart t := f.bucketStart_mono h

theorem bucketStart_le_lastSecond (h : t ≤ lastSecond) : f.bucketStart t ≤ lastSecond :=
  (f.bucketStart_le t).trans h

end Timeframe

theorem Instant.exists_ofSeconds? (hfirst : firstSecond ≤ n) (hlast : n ≤ lastSecond) :
    ∃ i, Instant.ofSeconds? n = some i ∧ i.seconds = n ∧ i.nanos = 0 := by
  refine ⟨⟨n, 0, hfirst, hlast, .inl (by decide)⟩, ?_, rfl, rfl⟩
  exact Instant.mk?_eq_some_iff.mpr ⟨rfl, rfl⟩

/-- **The grid of buckets.** The start of the bucket of a second that is an instant is found within
64 signed bits. It is the multiple of the length whose bucket holds the second, it starts its own
bucket, and does not fall behind that of an earlier second. A timeframe that is not shorter finds
the same start from it as from the second. The start is an instant too, so that every candle of the
bucket has a time. -/
theorem bucket_grid (f : Timeframe) {t : Int} (hfirst : firstSecond ≤ t) (hlast : t ≤ lastSecond) :
    f.signedStart? t = some (f.bucketStart t) ∧
      ((f.seconds : Int) ∣ f.bucketStart t ∧ f.bucketStart t ≤ t ∧
        t < f.bucketStart t + f.seconds) ∧
      f.bucketStart (f.bucketStart t) = f.bucketStart t ∧
      (∀ u, t ≤ u → f.bucketStart t ≤ f.bucketStart u) ∧
      (∀ g : Timeframe, f.seconds ≤ g.seconds →
        g.bucketStart (f.bucketStart t) = g.bucketStart t) ∧
      (firstSecond ≤ f.bucketStart t ∧ f.bucketStart t ≤ lastSecond) ∧
      ∀ c : Candle, c.bucketStart = f.bucketStart t →
        ∃ i, c.time? = some i ∧ i.seconds = f.bucketStart t ∧ i.nanos = 0 := by
  have hfirst' : firstSecond ≤ f.bucketStart t := Timeframe.firstSecond_le_bucketStart hfirst
  have hlast' : f.bucketStart t ≤ lastSecond := Timeframe.bucketStart_le_lastSecond hlast
  refine ⟨?_, ⟨f.dvd_bucketStart t, f.bucketStart_le t, f.lt_bucketStart_add t⟩,
    Timeframe.bucketStart_bucketStart le_rfl t, fun u hu => f.bucketStart_mono hu,
    fun g hg => Timeframe.bucketStart_bucketStart hg t, ⟨hfirst', hlast'⟩, ?_⟩
  · have hleast : leastInt ≤ firstSecond := by decide
    have hgreatest : lastSecond ≤ greatestSigned := by decide
    rw [Timeframe.signedStart?_eq (hleast.trans hfirst) (hlast.trans hgreatest),
      signed?_of_bounds (hleast.trans hfirst') (hlast'.trans hgreatest)]
  · intro c hc
    rw [Candle.time?, hc]
    exact Instant.exists_ofSeconds? hfirst' hlast'

/-- The first second that is an instant, by four hours, and the last one, by days. -/
theorem bucket_grid_ends :
    (firstSecond ≤ firstSecond ∧ firstSecond ≤ lastSecond ∧ lastSecond ≤ lastSecond) ∧
      Timeframe.h4.signedStart? firstSecond = some firstSecond ∧
      (∃ i, (Candle.openAt firstSecond Decimal.zero Decimal.zero).time? = some i ∧
        i.seconds = firstSecond ∧ i.nanos = 0) ∧
      Timeframe.d1.signedStart? lastSecond = some 8210266790400 ∧
      lastSecond < 8210266790400 + Timeframe.d1.seconds ∧
      Timeframe.d1.bucketStart (Timeframe.m1.bucketStart lastSecond) = 8210266790400 := by
  have hrange : firstSecond ≤ lastSecond := by decide
  have hstart : Timeframe.h4.bucketStart firstSecond = firstSecond := by decide
  have hstop : Timeframe.d1.bucketStart lastSecond = 8210266790400 := by decide
  obtain ⟨hfirst, -, -, -, -, -, htime⟩ := bucket_grid .h4 le_rfl hrange
  obtain ⟨hlast, ⟨-, -, hlt⟩, -⟩ := bucket_grid .d1 hrange le_rfl
  obtain ⟨-, -, -, -, hnested, -⟩ := bucket_grid .m1 hrange le_rfl
  rw [hstart] at hfirst htime
  rw [hstop] at hlast hlt
  exact ⟨⟨le_rfl, hrange, le_rfl⟩, hfirst, htime _ rfl, hlast, hlt,
    (hnested .d1 (by decide)).trans hstop⟩

end TickChart
