import TickChart.Config.Settings
import TickChart.Proofs.Delays

/-!
# The timers of an environment

Two variables of the environment reach a timer: the period between polls, and the longest delay
between attempts to connect. A period of zero is refused. A longest delay of zero is not, and then
there is no delay at all.

* `Backoff.delays_pos_iff`, `Backoff.delays_eq_zero`: the policies whose delays last, and those
  without any.
* `Settings.AsksForNoDelay`: the environment sets the longest delay to zero.
* `Settings.timers_of_environment`: no other environment makes a timer that is due at once.
-/

namespace TickChart

namespace Backoff

variable {p : ReconnectPolicy} {calls : List Call} {d : Duration}

/-- A delay that was returned is one of those that are planned. -/
theorem exists_planned_of_mem (h : d ∈ ((start p).run calls).1) : ∃ i, d.nanos = p.planned i := by
  have hmem : d.nanos ∈ (numbered 0 calls).map p.planned :=
    (stands_start p).run calls ▸ List.mem_map_of_mem h
  obtain ⟨i, -, hi⟩ := List.mem_map.mp hmem
  exact ⟨i, hi.symm⟩

/-- The delays of a policy last exactly if neither the first nor the longest one is zero. -/
theorem delays_pos_iff (p : ReconnectPolicy) :
    (∀ calls, ∀ d ∈ ((start p).run calls).1, 0 < d.nanos) ↔
      0 < p.initial.nanos ∧ 0 < p.longest.nanos := by
  constructor
  · intro h
    have hfirst : 0 < (start p).delay.nanos := h [.next] _ List.mem_cons_self
    rw [(stands_start p).nanos_delay, ReconnectPolicy.planned, Nat.pow_zero, Nat.mul_one] at hfirst
    omega
  · rintro ⟨hinitial, hlongest⟩ calls d hd
    obtain ⟨i, hi⟩ := exists_planned_of_mem hd
    have hfactor : 0 < max p.multiplier 1 ^ i := Nat.pow_pos (by omega)
    have hproduct := Nat.mul_pos hinitial hfactor
    rw [hi, ReconnectPolicy.planned]
    omega

/-- If the longest delay is zero, so is every other. -/
theorem delays_eq_zero (hlongest : p.longest.nanos = 0) (h : d ∈ ((start p).run calls).1) :
    d.nanos = 0 := by
  obtain ⟨i, hi⟩ := exists_planned_of_mem h
  have hle := p.planned_le i
  omega

end Backoff

/-- Whole seconds last unless there are none of them. -/
theorem Duration.nanos_ofSeconds_pos_iff {n : Nat} : 0 < (ofSeconds n).nanos ↔ 0 < n := by
  have hlimit : 0 < durationLimit - 1 := by decide
  rw [ofSeconds, nanos_ofNanos]
  omega

namespace Settings

variable {lookup : String → Option String}

/-- The environment sets the longest delay between attempts to connect to zero. -/
def AsksForNoDelay (lookup : String → Option String) : Prop :=
  (lookup "RECONNECT_MAX_SECS").bind readSeconds? = some 0

instance (lookup : String → Option String) : Decidable (AsksForNoDelay lookup) := by
  unfold AsksForNoDelay
  infer_instance

/-- The first delay is the usual one in every environment, which is not zero. -/
theorem initial_ofEnvironment_pos : 0 < (ofEnvironment lookup).feed.reconnect.initial.nanos :=
  Duration.nanos_ofSeconds_pos_iff.mpr (by decide)

theorem longest_ofEnvironment_pos_iff :
    0 < (ofEnvironment lookup).feed.reconnect.longest.nanos ↔ ¬ AsksForNoDelay lookup := by
  have hlongest : (ofEnvironment lookup).feed.reconnect.longest =
      (((lookup "RECONNECT_MAX_SECS").bind readSeconds?).map Duration.ofSeconds).getD
        ReconnectPolicy.standard.longest := rfl
  rw [hlongest, AsksForNoDelay]
  cases (lookup "RECONNECT_MAX_SECS").bind readSeconds? with
  | none =>
    have hstandard : 0 < ReconnectPolicy.standard.longest.nanos :=
      Duration.nanos_ofSeconds_pos_iff.mpr (by decide)
    simpa using hstandard
  | some n =>
    rw [Option.map_some, Option.getD_some, Duration.nanos_ofSeconds_pos_iff, Option.some.injEq]
    exact Nat.pos_iff_ne_zero

/-- A period of zero counts as not set. -/
theorem pollInterval_ofEnvironment_pos : 0 < (ofEnvironment lookup).pollInterval.nanos := by
  have hperiod : (ofEnvironment lookup).pollInterval =
      ((((lookup "INDICATOR_POLL_SECS").bind readSeconds?).filter (0 < ·)).map
        Duration.ofSeconds).getD standard.pollInterval := rfl
  rw [hperiod]
  cases hn : ((lookup "INDICATOR_POLL_SECS").bind readSeconds?).filter (0 < ·) with
  | none =>
    rw [Option.map_none, Option.getD_none, standard]
    exact Duration.nanos_ofSeconds_pos_iff.mpr (by decide)
  | some n =>
    have hpos : 0 < n := by simpa using (Option.filter_eq_some_iff.mp hn).2
    rw [Option.map_some, Option.getD_some]
    exact Duration.nanos_ofSeconds_pos_iff.mpr hpos

/-- **No environment but one kind makes a timer that is due at once.** Whatever the variables hold,
the indicators are not polled without a pause. After any number of attempts and successes there is
a delay before the next attempt to connect, unless the environment sets the longest delay to zero:
then there never is. -/
theorem timers_of_environment (lookup : String → Option String) :
    0 < (ofEnvironment lookup).pollInterval.nanos ∧
      ((∀ calls, ∀ d ∈ ((Backoff.start (ofEnvironment lookup).feed.reconnect).run calls).1,
        0 < d.nanos) ↔ ¬ AsksForNoDelay lookup) ∧
      (AsksForNoDelay lookup →
        ∀ calls, ∀ d ∈ ((Backoff.start (ofEnvironment lookup).feed.reconnect).run calls).1,
          d.nanos = 0) := by
  refine ⟨pollInterval_ofEnvironment_pos, ?_, fun hnone calls d hd => ?_⟩
  · rw [Backoff.delays_pos_iff, ← longest_ofEnvironment_pos_iff]
    exact and_iff_right initial_ofEnvironment_pos
  · have hlongest : (ofEnvironment lookup).feed.reconnect.longest.nanos = 0 := by
      have hnot := mt longest_ofEnvironment_pos_iff.mp (not_not_intro hnone)
      omega
    exact Backoff.delays_eq_zero hlongest hd

/-- A longest delay of zero, as the only variable that is set: three attempts follow one another at
once. -/
theorem timers_of_zero :
    let lookup := fun key => if key = "RECONNECT_MAX_SECS" then some "0" else none
    ((Backoff.start (ofEnvironment lookup).feed.reconnect).run [.next, .next, .next]).1 =
      [.ofSeconds 0, .ofSeconds 0, .ofSeconds 0] := by
  decide +kernel

end Settings

end TickChart
