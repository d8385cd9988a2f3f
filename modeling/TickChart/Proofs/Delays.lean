import Mathlib.Algebra.Order.Monoid.Unbundled.Pow
import Mathlib.Algebra.Order.Ring.Nat
import TickChart.Feed.Backoff

/-!
# The delays of a backoff

What a backoff holds is cut off twice: at the longest duration, when it is multiplied, and at the
longest delay, before it is kept. Neither is ever seen: the delays are what comes of multiplying
without bound and cutting off once, at the end.

* `ReconnectPolicy.planned`: the delays of a policy, worked out without bound.
* `Backoff.Call`, `Backoff.run`: the delays that come of any calls.
* `Backoff.numbered`: which delay since the last reset each call asks for.
* `Backoff.Stands`: what a backoff holds after so many delays, as far as it can be seen.
* `Backoff.delays_planned`: the delays are the planned ones; so they are bounded, and do not fall.
-/

namespace TickChart

/-- The nanoseconds of the delay after `i` others, worked out without bound. -/
def ReconnectPolicy.planned (p : ReconnectPolicy) (i : Nat) : Nat :=
  min (p.initial.nanos * max p.multiplier 1 ^ i) p.longest.nanos

theorem ReconnectPolicy.planned_le (p : ReconnectPolicy) (i : Nat) :
    p.planned i ≤ p.longest.nanos := Nat.min_le_right _ _

theorem ReconnectPolicy.planned_mono (p : ReconnectPolicy) {i j : Nat} (h : i ≤ j) :
    p.planned i ≤ p.planned j := by
  have hpow : max p.multiplier 1 ^ i ≤ max p.multiplier 1 ^ j :=
    Nat.pow_le_pow_right (Nat.le_max_right _ _) h
  have hmul := Nat.mul_le_mul_left p.initial.nanos hpow
  unfold planned
  omega

/-- Numbers that are the same up to a bound have the same multiples up to it. -/
theorem min_mul_eq_of_min_eq {a b bound m : Nat} (h : min a bound = min b bound) (hm : 1 ≤ m) :
    min (a * m) bound = min (b * m) bound := by
  rcases Nat.lt_or_ge a bound with ha | ha
  · have hab : a = b := by omega
    rw [hab]
  · have hb : bound ≤ b := by omega
    have ham : bound ≤ a * m := Nat.le_trans ha (Nat.le_mul_of_pos_right a hm)
    have hbm : bound ≤ b * m := Nat.le_trans hb (Nat.le_mul_of_pos_right b hm)
    omega

namespace Backoff

/-- What is asked of a backoff. -/
inductive Call where
  /-- The delay before the next attempt. -/
  | next
  /-- To begin anew. -/
  | reset
deriving DecidableEq

/-- The delays that calls return, and the backoff after them. -/
def run (b : Backoff) : List Call → List Duration × Backoff
  | [] => ([], b)
  | .next :: calls => (b.next.1 :: (b.next.2.run calls).1, (b.next.2.run calls).2)
  | .reset :: calls => b.reset.run calls

/-- For each call for a delay, how many there were before it since the last reset. Before the first
call there were `i`. -/
def numbered (i : Nat) : List Call → List Nat
  | [] => []
  | .next :: calls => i :: numbered (i + 1) calls
  | .reset :: calls => numbered 0 calls

theorem numbered_replicate (i n : Nat) :
    numbered i (List.replicate n .next) = List.range' i n := by
  induction n generalizing i with
  | zero => rfl
  | succ n ih =>
    rw [List.replicate_succ, numbered, ih]
    rfl

/-- The backoff is of the policy, and has returned `i` delays since it began anew. What it holds
beyond the longest delay is left open. -/
structure Stands (b : Backoff) (p : ReconnectPolicy) (i : Nat) : Prop where
  policy : b.policy = p
  current : min b.current.nanos p.longest.nanos = p.planned i

variable {b : Backoff} {p : ReconnectPolicy} {i : Nat}

theorem stands_start (p : ReconnectPolicy) : (start p).Stands p 0 :=
  ⟨rfl, by simp [start, ReconnectPolicy.planned]⟩

theorem Stands.reset (h : b.Stands p i) : b.reset.Stands p 0 := by
  rw [Backoff.reset, h.policy]
  exact stands_start p

theorem Stands.nanos_delay (h : b.Stands p i) : b.delay.nanos = p.planned i := by
  rw [delay, h.policy, Duration.nanos_min, h.current]

/-- One delay later. That the product is cut off at the longest duration makes no difference, since
the longest delay is a duration itself. -/
theorem Stands.grow (h : b.Stands p i) : b.grow.Stands p (i + 1) := by
  refine ⟨h.policy, ?_⟩
  have hlongest := p.longest.nanos_lt
  have hcut : min (b.current.nanos * max p.multiplier 1) p.longest.nanos =
      min (p.initial.nanos * max p.multiplier 1 ^ i * max p.multiplier 1) p.longest.nanos :=
    min_mul_eq_of_min_eq h.current (Nat.le_max_right _ _)
  rw [Backoff.grow, h.policy, Duration.nanos_min, Duration.nanos_times, ReconnectPolicy.planned,
    Nat.pow_succ, ← Nat.mul_assoc, ← hcut]
  omega

/-- The delays that calls return are those of their numbers. -/
theorem Stands.run (h : b.Stands p i) (calls : List Call) :
    (b.run calls).1.map Duration.nanos = (numbered i calls).map p.planned := by
  induction calls generalizing b i with
  | nil => rfl
  | cons call calls ih =>
    cases call with
    | next =>
      rw [Backoff.run, numbered, List.map_cons, List.map_cons, next, h.nanos_delay, ih h.grow]
    | reset => exact ih h.reset

theorem Stands.after (h : b.Stands p i) (calls : List Call) : ∃ j, (b.run calls).2.Stands p j := by
  induction calls generalizing b i with
  | nil => exact ⟨i, h⟩
  | cons call calls ih =>
    cases call with
    | next => exact ih h.grow
    | reset => exact ih h.reset

/-- **The delays in closed form.** Whatever the policy and the calls, the delay that is returned
after `i` others since the last reset is the first delay times the `i`-th power of the factor, or
the longest delay if that is less. So no delay is beyond the longest one, and from one reset to the
next they do not fall. -/
theorem delays_planned (p : ReconnectPolicy) (calls : List Call) :
    ((start p).run calls).1.map Duration.nanos = (numbered 0 calls).map p.planned ∧
      (∀ d ∈ ((start p).run calls).1, d.nanos ≤ p.longest.nanos) ∧
      ∀ n, (((start p).run calls).2.run (List.replicate n .next)).1.Pairwise
        fun d later => d.nanos ≤ later.nanos := by
  have hclosed := (stands_start p).run calls
  refine ⟨hclosed, fun d hd => ?_, fun n => ?_⟩
  · have hmem : d.nanos ∈ (numbered 0 calls).map p.planned :=
      hclosed ▸ List.mem_map_of_mem hd
    obtain ⟨j, -, hj⟩ := List.mem_map.mp hmem
    rw [← hj]
    exact p.planned_le j
  · obtain ⟨j, hj⟩ := (stands_start p).after calls
    have hnext := hj.run (List.replicate n .next)
    rw [numbered_replicate] at hnext
    have hsorted : ((List.range' j n).map p.planned).Pairwise (· ≤ ·) := by
      refine List.pairwise_map.mpr ((List.pairwise_lt_range' 1).imp fun hlt => ?_)
      exact p.planned_mono (Nat.le_of_lt hlt)
    rw [← hnext, List.pairwise_map] at hsorted
    exact hsorted

/-- A first delay beyond the longest one, and a factor of zero; then a factor that leads beyond the
longest duration at once. -/
example :
    ((start ⟨.ofSeconds 9, .ofSeconds 5, 0⟩).run [.next, .next, .reset, .next]).1 =
        [.ofSeconds 5, .ofSeconds 5, .ofSeconds 5] ∧
      ((start ⟨.ofSeconds 1, .longest, durationLimit⟩).run [.next, .next, .reset, .next]).1 =
        [.ofSeconds 1, .longest, .ofSeconds 1] := by
  decide

end Backoff

end TickChart
