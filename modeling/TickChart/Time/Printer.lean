import TickChart.Text.Integer
import TickChart.Time.Instant

/-!
# Writing instants

An instant is written as `2024-01-01T00:00:00Z`, in UTC. Years from 0 to 9999 have four digits;
every other year has a sign and at least four.

* `Instant.secondChars`: without the fraction of the second.
* `Instant.chars`: with the fraction in three, six or nine digits, the fewest that hold it; none
  for a whole second.
-/

namespace TickChart

/-- `n` in at least `width` digits. -/
def paddedDigits (width n : Nat) : List Char :=
  let ds := Text.digits n
  List.replicate (width - ds.length) '0' ++ ds

/-- A year, with a sign unless it is one of 0 to 9999. -/
def yearChars (y : Int) : List Char :=
  if 0 ≤ y ∧ y ≤ 9999 then paddedDigits 4 y.toNat
  else (if y < 0 then '-' else '+') :: paddedDigits 4 y.natAbs

/-- A fraction of a second in three, six or nine digits, or none for zero. -/
def fractionChars (nanos : Nat) : List Char :=
  if nanos = 0 then []
  else if nanos % 1000000 = 0 then '.' :: paddedDigits 3 (nanos / 1000000)
  else if nanos % 1000 = 0 then '.' :: paddedDigits 6 (nanos / 1000)
  else '.' :: paddedDigits 9 nanos

namespace Clock

/-- The date and the time of day without the fraction of the second. -/
def secondChars (c : Clock) : List Char :=
  yearChars c.date.year ++ '-' :: paddedDigits 2 c.date.month ++ '-' :: paddedDigits 2 c.date.day
    ++ 'T' :: paddedDigits 2 c.hour ++ ':' :: paddedDigits 2 c.minute
    ++ ':' :: paddedDigits 2 c.second

end Clock

namespace Instant

/-- The instant in whole seconds. -/
def secondChars (t : Instant) : List Char := t.clock.secondChars ++ ['Z']

/-- The instant with its fraction of a second. -/
def chars (t : Instant) : List Char :=
  t.clock.secondChars ++ fractionChars t.clock.nanos ++ ['Z']

/-- The instant in whole seconds, as text. -/
def secondText (t : Instant) : String := String.ofList t.secondChars

/-- The instant with its fraction of a second, as text. -/
def text (t : Instant) : String := String.ofList t.chars

end Instant

end TickChart
