import TickChart.Market.Failure
import TickChart.Text.Ascii
import TickChart.Text.Blank

/-!
# Timeframes

A timeframe cuts time into buckets of one length, aligned to 1 January 1970.

* `Timeframe.seconds`: the length of a bucket.
* `Timeframe.bucketStart`: the start of the bucket that holds a second; before 1970 too it is the
  latest start that is not after the second.
* `Timeframe.lookback`: how far back a chart of the timeframe begins.
* `Timeframe.ofText?`: the timeframe with a label, in either case.
-/

namespace TickChart

/-- The length of a chart's candles. -/
inductive Timeframe where
  | m1
  | m5
  | m15
  | h1
  | h4
  | d1
deriving DecidableEq, Inhabited

namespace Timeframe

/-- The timeframes from the shortest to the longest. -/
def all : List Timeframe := [m1, m5, m15, h1, h4, d1]

/-- The length of a bucket. -/
def seconds : Timeframe → Nat
  | m1 => 60
  | m5 => 5 * 60
  | m15 => 15 * 60
  | h1 => 60 * 60
  | h4 => 4 * 60 * 60
  | d1 => 24 * 60 * 60

/-- The name of the timeframe. -/
def label : Timeframe → String
  | m1 => "1m"
  | m5 => "5m"
  | m15 => "15m"
  | h1 => "1h"
  | h4 => "4h"
  | d1 => "1d"

/-- `lookback`: the seconds that a chart reaches back, from a day of minutes to ninety of days. -/
def lookback : Timeframe → Nat
  | m1 => 24 * 3600
  | m5 => 48 * 3600
  | m15 => 72 * 3600
  | h1 => 7 * 86400
  | h4 => 30 * 86400
  | d1 => 90 * 86400

/-- `bucket_start`: the start of the bucket that holds the second `t`. -/
def bucketStart (f : Timeframe) (t : Int) : Int := t / f.seconds * f.seconds

/-- `Timeframe.from_str`: the timeframe with this label, whatever the case of its letter and the
blanks around it. -/
def ofText? (s : String) : Except ReadError Timeframe :=
  match all.find? fun f => Text.eqIgnoringCase f.label.toList (Text.trim s.toList) with
  | some f => .ok f
  | none => .error (.unknownTimeframe s)

/-- The timeframe with exactly this label. -/
def ofLabel? (s : String) : Option Timeframe := all.find? fun f => f.label = s

theorem seconds_pos (f : Timeframe) : 0 < f.seconds := by cases f <;> decide

/-- A bucket starts at or before every second in it. -/
theorem bucketStart_le (f : Timeframe) (t : Int) : f.bucketStart t ≤ t := by
  cases f <;> simp only [bucketStart, seconds] <;> omega

/-- A second lies before the end of its bucket. -/
theorem lt_bucketStart_add (f : Timeframe) (t : Int) : t < f.bucketStart t + f.seconds := by
  cases f <;> simp only [bucketStart, seconds] <;> omega

/-- A later second is not in an earlier bucket. -/
theorem bucketStart_mono (f : Timeframe) {t u : Int} (h : t ≤ u) :
    f.bucketStart t ≤ f.bucketStart u := by
  cases f <;> simp only [bucketStart, seconds] <;> omega

/-- A bucket lies within one bucket of a longer timeframe. -/
theorem bucketStart_bucketStart {f g : Timeframe} (h : f.seconds ≤ g.seconds) (t : Int) :
    g.bucketStart (f.bucketStart t) = g.bucketStart t := by
  cases f <;> cases g <;> simp only [bucketStart, seconds] at * <;> omega

theorem ofLabel?_label (f : Timeframe) : ofLabel? f.label = some f := by cases f <;> rfl

end Timeframe

end TickChart
