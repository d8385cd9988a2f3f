import TickChart.Number.Double
import TickChart.Text.Integer

/-!
# The shortest decimal of a double

The decimals that read back to a double form an interval around it: up to halfway to either
neighbour, the ends included when the fraction of the double is even. Of the decimals in it the
one with the fewest digits is taken, and of those the nearest to the double.

* `Ratio`: a quotient of natural numbers, compared by cross-multiplication.
* `readsBack`: a decimal lies in the interval of a double.
* `shortest`: the digits and the power of ten. The tie between two equally near decimals is a
  choice of the format that asks.
-/

namespace TickChart

/-- `num / den`. -/
structure Ratio where
  num : Nat
  den : Nat

namespace Ratio

/-- `m * 2 ^ e`. -/
def ofBinary (m : Nat) (e : Int) : Ratio := ⟨m * twoTo e.toNat, twoTo (-e).toNat⟩

/-- `m * 10 ^ e`. -/
def ofDecimal (m : Nat) (e : Int) : Ratio := ⟨m * tenTo e.toNat, tenTo (-e).toNat⟩

/-- `a < b`. -/
def lt (a b : Ratio) : Bool := a.num * b.den < b.num * a.den

/-- `a ≤ b`. -/
def le (a b : Ratio) : Bool := a.num * b.den ≤ b.num * a.den

/-- The integer part of `a / b`. -/
def floorDiv (a b : Ratio) : Nat := (a.num * b.den) / (a.den * b.num)

end Ratio

/-- Which of two equally near decimals is taken. -/
inductive Tie where
  | toEven
  | up
deriving DecidableEq

namespace Double

/-- The absolute value of a finite double. -/
def ratio (x : Double) : Ratio := Ratio.ofBinary x.magnitude.1 x.magnitude.2

/-- Halfway to the double below. -/
def lowEnd (x : Double) : Ratio :=
  Ratio.ofBinary (4 * x.magnitude.1 - if x.narrowBelow then 1 else 2) (x.magnitude.2 - 2)

/-- Halfway to the double above. -/
def highEnd (x : Double) : Ratio := Ratio.ofBinary (4 * x.magnitude.1 + 2) (x.magnitude.2 - 2)

/-- `digits * 10 ^ exponent` is nearer to the absolute value of `x` than to that of any other
double, or as near and `x` is the even one of the two. -/
def readsBack (x : Double) (digits : Nat) (exponent : Int) : Bool :=
  let d := Ratio.ofDecimal digits exponent
  if x.magnitude.1 % 2 = 0 then x.lowEnd.le d && d.le x.highEnd
  else x.lowEnd.lt d && d.lt x.highEnd

/-- The least `k` with the absolute value of `x` below `10 ^ k`, found from the binary logarithm
and at most two steps. -/
def decimalWidth (x : Double) : Int :=
  let (m, q) := x.magnitude
  let guess := ((m.log2 + q) * 30103).fdiv 100000
  if x.ratio.lt (Ratio.ofDecimal 1 guess) then guess
  else if x.ratio.lt (Ratio.ofDecimal 1 (guess + 1)) then guess + 1
  else guess + 2

/-- A decimal with `exponent` as its power of ten that reads back to `x`: the nearer of the two
around `x`. -/
def nearest? (tie : Tie) (x : Double) (exponent : Int) : Option Nat :=
  let below := x.ratio.floorDiv (Ratio.ofDecimal 1 exponent)
  match x.readsBack below exponent, x.readsBack (below + 1) exponent with
  | true, false => some below
  | false, true => some (below + 1)
  | false, false => none
  | true, true =>
    let middle := Ratio.ofDecimal (5 * (2 * below + 1)) (exponent - 1)
    if x.ratio.lt middle then some below
    else if middle.lt x.ratio then some (below + 1)
    else if tie = .toEven ∧ below % 2 = 0 then some below
    else some (below + 1)

/-- `digits * 10 ^ exponent` without trailing zeros in the digits. -/
def stripZeros : Nat → Nat → Int → Nat × Int
  | 0, digits, exponent => (digits, exponent)
  | fuel + 1, digits, exponent =>
    if digits % 10 = 0 ∧ 0 < digits then stripZeros fuel (digits / 10) (exponent + 1)
    else (digits, exponent)

/-- The digits and the power of ten of the shortest decimal that reads back to a finite double.
Seventeen digits always suffice; the exact value stands behind them. -/
def shortest (tie : Tie) (x : Double) : Nat × Int :=
  if x.magnitude.1 = 0 then (0, 0)
  else
    let found := (List.range 17).findSome? fun (n : Nat) =>
      let exponent := x.decimalWidth - (n + 1)
      (nearest? tie x exponent).map fun digits => stripZeros 20 digits exponent
    found.getD
      (if 0 ≤ x.magnitude.2 then (x.magnitude.1 * twoTo x.magnitude.2.toNat, 0)
       else (x.magnitude.1 * Nat.pow 5 (-x.magnitude.2).toNat, x.magnitude.2))

/-! ## Layouts -/

/-- Digits with the point `point` places from their start, with zeros where it lies outside. -/
def layPoint (ds : List Char) (point : Int) : List Char × List Char :=
  if point ≤ 0 then ([], List.replicate (-point).toNat '0' ++ ds)
  else if ds.length ≤ point.toNat then (ds ++ List.replicate (point.toNat - ds.length) '0', [])
  else (ds.take point.toNat, ds.drop point.toNat)

/-- The sign of a double in front of a text. -/
def signed (x : Double) (cs : List Char) : List Char := if x.negative then '-' :: cs else cs

/-- A finite double without an exponent, whatever its size; an integer has no point. -/
def plainChars (x : Double) : List Char :=
  let (digits, exponent) := x.shortest .up
  let ds := Text.digits digits
  let (whole, part) := layPoint ds (ds.length + exponent)
  let whole := if whole.isEmpty then ['0'] else whole
  signed x (if part.isEmpty then whole else whole ++ '.' :: part)

/-- An exponent with its sign. -/
def exponentChars (e : Int) : List Char :=
  'e' :: (if e < 0 then '-' else '+') :: Text.digits e.natAbs

/-- A finite double as JSON shows it: with a point if it is written without an exponent, which is
from `0.00001` up to below `10 ^ 16`. -/
def jsonChars (x : Double) : List Char :=
  let (digits, exponent) := x.shortest .toEven
  let ds := Text.digits digits
  let point := ds.length + exponent
  if digits = 0 then signed x "0.0".toList
  else if -5 < point ∧ point ≤ 16 then
    let (whole, part) := layPoint ds point
    let whole := if whole.isEmpty then ['0'] else whole
    signed x (whole ++ '.' :: if part.isEmpty then ['0'] else part)
  else
    let (lead, part) := (ds.take 1, ds.drop 1)
    signed x ((if part.isEmpty then lead else lead ++ '.' :: part) ++ exponentChars (point - 1))

end Double

end TickChart
