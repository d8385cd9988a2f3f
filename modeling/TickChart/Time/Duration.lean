/-!
# Durations

A duration is a count of nanoseconds below `2 ^ 64` seconds.

* `Duration.ofNanos`, `Duration.ofSeconds`: a count beyond the longest duration gives the longest.
* `Duration.times`: a multiple, or the longest duration.
* `Duration.seconds`, `Duration.subNanos`: the whole seconds and the rest.
-/

namespace TickChart

/-- The first count of nanoseconds that is no duration. -/
def durationLimit : Nat := 18446744073709551616 * 1000000000

/-- A length of time. -/
structure Duration where
  nanos : Nat
  nanos_lt : nanos < durationLimit
deriving DecidableEq

namespace Duration

/-- The longest duration. -/
def longest : Duration := ⟨durationLimit - 1, by decide⟩

/-- A count of nanoseconds, or the longest duration if it is beyond it. -/
def ofNanos (n : Nat) : Duration :=
  if h : n < durationLimit then ⟨n, h⟩ else longest

/-- A count of seconds. -/
def ofSeconds (n : Nat) : Duration := ofNanos (n * 1000000000)

instance : Inhabited Duration := ⟨ofNanos 0⟩

/-- The whole seconds. -/
def seconds (d : Duration) : Nat := d.nanos / 1000000000

/-- The nanoseconds after the whole seconds. -/
def subNanos (d : Duration) : Nat := d.nanos % 1000000000

/-- The shorter of two durations. -/
def min (a b : Duration) : Duration := if a.nanos ≤ b.nanos then a else b

/-- The longer of two durations. -/
def max (a b : Duration) : Duration := if a.nanos ≤ b.nanos then b else a

/-- A multiple, or the longest duration if it is beyond it. -/
def times (d : Duration) (n : Nat) : Duration := ofNanos (d.nanos * n)

theorem nanos_ofNanos (n : Nat) : (ofNanos n).nanos = Min.min n (durationLimit - 1) := by
  unfold ofNanos
  split
  · next h => simp only; omega
  · next h => simp only [longest]; omega

theorem nanos_min (a b : Duration) : (a.min b).nanos = Min.min a.nanos b.nanos := by
  unfold min
  split <;> omega

theorem nanos_times (d : Duration) (n : Nat) :
    (d.times n).nanos = Min.min (d.nanos * n) (durationLimit - 1) := nanos_ofNanos _

end Duration

end TickChart
