import TickChart.Text.Integer

/-!
# Binary64 numbers

A double is kept as its 64 bits, so that two doubles are equal when they are the same bits, and
zero and minus zero stay apart. Arithmetic goes through `Float`.

* `Double.isFinite`, `Double.magnitude`: a finite double is `± m * 2 ^ q`.
* `Double.truncate`: its integer part, towards zero.
* `ofScientific`: the double nearest to `m * 10 ^ e`.
* `readDouble?`: a double in decimal notation, with the words for infinity and not-a-number.
-/

namespace TickChart

/-- A binary64 number, as its bits. -/
structure Double where
  bits : UInt64
deriving DecidableEq, Inhabited

namespace Double

/-- The bits of a machine number. -/
def ofFloat (x : Float) : Double := ⟨x.toBits⟩

/-- The sign bit is set. -/
def negative (x : Double) : Bool := x.bits >>> 63 == 1

/-- The eleven bits of the exponent. -/
def exponentField (x : Double) : Nat := ((x.bits >>> 52) &&& 0x7FF).toNat

/-- The 52 bits of the fraction. -/
def fractionField (x : Double) : Nat := (x.bits &&& 0xFFFFFFFFFFFFF).toNat

/-- Neither an infinity nor not-a-number. -/
def isFinite (x : Double) : Bool := x.exponentField != 0x7FF

/-- The absolute value of a finite double, as `m` and `q` with `m * 2 ^ q`. -/
def magnitude (x : Double) : Nat × Int :=
  if x.exponentField = 0 then (x.fractionField, -1074)
  else (twoTo 52 + x.fractionField, (x.exponentField : Int) - 1075)

/-- The double below a finite one is half as far away as the one above. -/
def narrowBelow (x : Double) : Bool := x.fractionField == 0 && 1 < x.exponentField

/-- The integer part of a finite double, towards zero. -/
def truncate (x : Double) : Int :=
  let (m, q) := x.magnitude
  let n := if 0 ≤ q then m * twoTo q.toNat else m / twoTo (-q).toNat
  if x.negative then -(n : Int) else n

/-- The double with the sign bit set as given. -/
def withSign (negative : Bool) (x : Float) : Double :=
  ofFloat (if negative then -x else x)

/-- The double nearest to `m * 10 ^ e`, a tie going to the even one; an infinity beyond the range.
Exponents that no number of `m`'s length can bring into the range are not worked out. -/
def ofScientific (negative : Bool) (m : Nat) (e : Int) : Double :=
  let places : Int := (Text.digits m).length
  if m = 0 ∨ e + places < -400 then withSign negative 0.0
  else if 400 < e + places then withSign negative (Float.ofBits 0x7FF0000000000000)
  else withSign negative (Float.ofScientific m (decide (e < 0)) e.natAbs)

/-- The double nearest to an integer. -/
def ofInt (n : Int) : Double := ofScientific (decide (n < 0)) n.natAbs 0

/-- The double is a number, and neither infinite nor not-a-number. -/
def finite? (x : Double) : Option Double := if x.isFinite then some x else none

end Double

namespace Text

/-- A text that begins with digits: their values, and what follows them. -/
def spanDigits : List Char → List Nat × List Char
  | [] => ([], [])
  | c :: cs =>
    match digit? c with
    | some d => let (ds, rest) := spanDigits cs; (d :: ds, rest)
    | none => ([], c :: cs)

/-- An exponent: nothing, or `e` or `E` and an integer that ends the text. -/
def readExponent? : List Char → Option Int
  | [] => some 0
  | c :: cs =>
    if c = 'e' ∨ c = 'E' then
      match cs with
      | '-' :: digits => (readDigits? digits).map fun n => -(n : Int)
      | '+' :: digits => (readDigits? digits).map Int.ofNat
      | digits => (readDigits? digits).map Int.ofNat
    else none

/-- A number without a sign: digits with at most one point among or around them, at least one
digit, and perhaps an exponent. -/
def readUnsignedDouble? (negative : Bool) (cs : List Char) : Option Double :=
  let (whole, rest) := spanDigits cs
  let (part, rest) :=
    match rest with
    | '.' :: more => spanDigits more
    | _ => ([], rest)
  if whole.isEmpty && part.isEmpty then none
  else
    (readExponent? rest).map fun e =>
      Double.ofScientific negative (natOfDigits 0 (whole ++ part)) (e - part.length)

/-- A double in decimal notation after a sign or none, or one of the words `inf`, `infinity` and
`nan` in any case. -/
def readDouble? (cs : List Char) : Option Double :=
  let (negative, rest) :=
    match cs with
    | '-' :: rest => (true, rest)
    | '+' :: rest => (false, rest)
    | _ => (false, cs)
  if eqIgnoringCase rest "inf".toList || eqIgnoringCase rest "infinity".toList then
    some (Double.withSign negative (Float.ofBits 0x7FF0000000000000))
  else if eqIgnoringCase rest "nan".toList then
    some (Double.ofFloat (Float.ofBits 0x7FF8000000000000))
  else readUnsignedDouble? negative rest

end Text

end TickChart
