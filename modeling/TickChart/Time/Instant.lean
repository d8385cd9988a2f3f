import TickChart.Time.Calendar

/-!
# Instants

An instant is a whole second since 1 January 1970 UTC and a count of nanoseconds after it. A leap
second has no number of its own: it is the 59th second of its minute with a count of `10 ^ 9` or
more.

* `Instant`: the seconds from 1 January of year -262143 to 31 December of year 262142.
* `Instant.before?`: the instant some seconds earlier.
* `Instant.clock`: the date and the time of day, UTC.
* `Instant.ofClock?`: the instant at which a clock with an offset shows a date and a time.
-/

namespace TickChart

/-- The first second that is an instant. -/
def firstSecond : Int := -8334601228800

/-- The last second that is an instant. -/
def lastSecond : Int := 8210266876799

/-- A point in time: seconds since 1 January 1970 UTC and nanoseconds after them. -/
structure Instant where
  seconds : Int
  nanos : Nat
  first_le : firstSecond ≤ seconds
  le_last : seconds ≤ lastSecond
  nanos_lt : nanos < 1000000000 ∨ (nanos < 2000000000 ∧ seconds % 60 = 59)
deriving DecidableEq

namespace Instant

/-- The instant with these seconds and nanoseconds, if there is one. -/
def mk? (seconds : Int) (nanos : Nat) : Option Instant :=
  if h : firstSecond ≤ seconds ∧ seconds ≤ lastSecond ∧
      (nanos < 1000000000 ∨ (nanos < 2000000000 ∧ seconds % 60 = 59)) then
    some ⟨seconds, nanos, h.1, h.2.1, h.2.2⟩
  else none

/-- The instant at a whole second. -/
def ofSeconds? (seconds : Int) : Option Instant := mk? seconds 0

instance : Inhabited Instant :=
  ⟨⟨0, 0, by decide, by decide, by decide⟩⟩

/-- The instant `span` seconds earlier, for a positive `span`. A leap second counts as the second
that follows it. -/
def before? (t : Instant) (span : Nat) : Option Instant :=
  if t.nanos < 1000000000 then mk? (t.seconds - span) t.nanos
  else mk? (t.seconds + 1 - span) (t.nanos - 1000000000)

theorem mk?_eq_some_iff {seconds : Int} {nanos : Nat} {t : Instant} :
    mk? seconds nanos = some t ↔ t.seconds = seconds ∧ t.nanos = nanos := by
  constructor
  · intro h
    simp only [mk?] at h
    split at h <;> cases h
    exact ⟨rfl, rfl⟩
  · rintro ⟨rfl, rfl⟩
    simp [mk?, t.first_le, t.le_last, t.nanos_lt]

end Instant

/-- What a clock shows: a date, and a time of day with `second = 60` in a leap second. -/
structure Clock where
  date : Date
  hour : Nat
  minute : Nat
  second : Nat
  nanos : Nat
deriving DecidableEq

namespace Clock

/-- The date exists and the time of day is one. -/
def Valid (c : Clock) : Prop :=
  c.date.Valid ∧ c.hour < 24 ∧ c.minute < 60 ∧ c.second ≤ 60 ∧ c.nanos < 1000000000

instance (c : Clock) : Decidable c.Valid := by unfold Valid; infer_instance

/-- The seconds that an offset of 0 would give; a leap second has the number of the second before
it. -/
def seconds (c : Clock) : Int :=
  c.date.dayNumber * 86400 + (c.hour * 3600 + c.minute * 60 + min c.second 59 : Nat)

end Clock

namespace Instant

/-- The date and the time of day of an instant. -/
def clock (t : Instant) : Clock :=
  let ofDay := (t.seconds % 86400).toNat
  { date := Date.ofDayNumber (t.seconds / 86400)
    hour := ofDay / 3600
    minute := ofDay / 60 % 60
    second := if t.nanos < 1000000000 then ofDay % 60 else 60
    nanos := t.nanos % 1000000000 }

/-- The instant at which a clock that is `offset` seconds ahead of UTC shows `c`. The reading
must itself lie in the range of instants. -/
def ofClock? (c : Clock) (offset : Int) : Option Instant :=
  if c.Valid then
    let nanos := if c.second = 60 then 1000000000 + c.nanos else c.nanos
    (mk? c.seconds nanos).bind fun shown => mk? (shown.seconds - offset) nanos
  else none

end Instant

end TickChart
