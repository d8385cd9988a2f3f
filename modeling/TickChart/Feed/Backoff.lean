import TickChart.Time.Duration

/-!
# Backoff

The delays between attempts to connect: each is a multiple of the one before, up to a longest one,
and after a success they begin anew.

* `ReconnectPolicy`: the first delay, the longest and the factor.
* `Backoff.next`: the delay before the next attempt.
* `Backoff.reset`: an attempt has succeeded.
-/

namespace TickChart

/-- How delays grow. A factor of zero counts as one. -/
structure ReconnectPolicy where
  initial : Duration
  longest : Duration
  multiplier : Nat
deriving DecidableEq

/-- One second, doubled up to thirty. -/
def ReconnectPolicy.standard : ReconnectPolicy := ⟨.ofSeconds 1, .ofSeconds 30, 2⟩

/-- The delay that comes next. -/
structure Backoff where
  policy : ReconnectPolicy
  current : Duration
deriving DecidableEq

namespace Backoff

/-- `Backoff.new`: no attempt was made yet. -/
def start (policy : ReconnectPolicy) : Backoff := ⟨policy, policy.initial⟩

/-- The delay before the next attempt. -/
def delay (b : Backoff) : Duration := b.current.min b.policy.longest

/-- One more attempt is made. -/
def grow (b : Backoff) : Backoff :=
  { b with current := (b.current.times (max b.policy.multiplier 1)).min b.policy.longest }

/-- `next_delay`: the delay before the next attempt, and what comes after it. -/
def next (b : Backoff) : Duration × Backoff := (b.delay, b.grow)

/-- `Backoff.reset`: an attempt has succeeded. -/
def reset (b : Backoff) : Backoff := start b.policy

end Backoff

end TickChart
