import TickChart.Number.Double
import TickChart.Text.Integer

/-!
# JSON numbers

A number literal that is an integer of 64 bits, signed or not, is that integer. Every other literal
is a double.

* `Literal`: the digits as they are written.
* `Number`: what a literal stands for.
* `Literal.number?`: from the one to the other. A literal beyond the range of doubles stands for
  nothing.
-/

namespace TickChart.Json

open TickChart.Text

/-- A number as it is written: the digits before the point, those behind it (none without a
point), and the exponent if there is one. -/
structure Literal where
  negative : Bool
  whole : List Nat
  part : List Nat
  exponent : Option Int
deriving DecidableEq

/-- An integer of 64 bits or a double. -/
inductive Number where
  | int (n : Int)
  | double (x : Double)
deriving DecidableEq

/-- The least integer that a number can be. -/
def leastInt : Int := -9223372036854775808

/-- The greatest integer that a number can be. -/
def greatestInt : Int := 18446744073709551615

/-- The greatest signed integer of 64 bits. -/
def greatestSigned : Int := 9223372036854775807

namespace Number

/-- The number as a signed integer of 64 bits. Doubles are none, even without a fraction. -/
def signed? : Number → Option Int
  | int n => if n ≤ greatestSigned then some n else none
  | double _ => none

/-- The number as an integer from `low` to `top`. Doubles are none, even without a fraction. -/
def intIn? (low top : Int) : Number → Option Int
  | int n => if low ≤ n ∧ n ≤ top then some n else none
  | double _ => none

/-- The double nearest to the number. -/
def toDouble : Number → Double
  | int n => Double.ofInt n
  | double x => x

end Number

namespace Literal

/-- The literal of an integer. -/
def ofInt (n : Int) : Literal :=
  ⟨decide (n < 0), (digitValues? (digits n.natAbs)).getD [], [], none⟩

/-- Digits appended to `m` while the result has 64 bits: the result, and how many digits were
appended. -/
def gather (m : Nat) : List Nat → Nat × Nat
  | [] => (m, 0)
  | d :: ds =>
    if 10 * m + d < twoTo 64 then
      let (n, taken) := gather (10 * m + d) ds
      (n, taken + 1)
    else (m, 0)

/-- Ten to a power up to `10 ^ 308`, the greatest power of ten that is a double. -/
def powerOfTen (e : Nat) : Float := Float.ofScientific 1 false e

/-- A significand times a power of ten, in the arithmetic of doubles: one multiplication or
division for a power up to `10 ^ 308`, two divisions below. Nothing if it is infinite. -/
def scale? (m : Nat) (e : Int) : Option Float :=
  let x := Float.ofScientific m false 0
  if m = 0 then some x
  else if 308 < e then none
  else if 0 ≤ e then
    let y := x * powerOfTen e.natAbs
    if (Double.ofFloat y).isFinite then some y else none
  else if -308 ≤ e then some (x / powerOfTen e.natAbs)
  else if -616 ≤ e then some (x / powerOfTen 308 / powerOfTen (e + 308).natAbs)
  else some 0.0

/-- The literal as a double, worked out from the digits that fit 64 bits. -/
def double? (l : Literal) : Option Double :=
  let (m, fromWhole) := gather 0 l.whole
  let (m, fromPart) := gather m l.part
  let e := l.exponent.getD 0 + (l.whole.length - fromWhole : Nat) - fromPart
  (scale? m e).map (Double.withSign l.negative)

/-- What the literal stands for. Minus zero is a double. -/
def number? (l : Literal) : Option Number :=
  let n : Int := natOfDigits 0 l.whole
  if l.part.isEmpty ∧ l.exponent = none then
    if l.negative then
      if n ≠ 0 ∧ leastInt ≤ -n then some (.int (-n)) else l.double?.map .double
    else if n ≤ greatestInt then some (.int n)
    else l.double?.map .double
  else l.double?.map .double

/-- The literal as it is written. -/
def chars (l : Literal) : List Char :=
  (if l.negative then ['-'] else []) ++ l.whole.map digitChar
    ++ (if l.part.isEmpty then [] else '.' :: l.part.map digitChar)
    ++ match l.exponent with
       | none => []
       | some e => 'e' :: intDigits e

end Literal

end TickChart.Json
