import TickChart.Number.Decimal
import TickChart.Text.Blank
import TickChart.Text.Integer

/-!
# Reading decimals

Two notations are read. The plain one is a sign, digits and at most one point; an underscore may
stand anywhere after the first digit. The scientific one is a plain number, `e` or `E`, and an
integer exponent.

* `readPlain?`: keeps as many fraction digits as fit 28 places and 96 bits; the character after
  the last digit that is kept rounds it, and the rest must only be digits and underscores.
* `readScientific?`: moves the point, adding zeros on either side of it only as far as the bounds
  of a decimal go.
* `read?`: the plain notation first, the scientific one if that fails.
-/

namespace TickChart.Decimal

open TickChart.Text

/-! ## Plain notation -/

/-- A sign and the text after it; `true` is the minus sign. -/
def splitSign : List Char → Bool × List Char
  | '-' :: cs => (true, cs)
  | '+' :: cs => (false, cs)
  | cs => (false, cs)

/-- `m` with its last digit rounded by the digit that follows it, five and above upwards. A
magnitude that grows beyond 96 bits by this gives up one more fraction digit. -/
def roundBy (m scale next : Nat) : Option (Nat × Nat) :=
  if next < 5 then some (m, scale)
  else if m + 1 < coeffLimit then some (m + 1, scale)
  else if scale = 0 then none
  else some ((m + 5) / 10, scale - 1)

/-- `m` rounded by the first of the characters after it, of which nothing else is kept. An
underscore counts as the digit zero. -/
def roundAt (m scale : Nat) (rest : List Char) : Option (Nat × Nat) :=
  if rest.all fun c => (digit? c).isSome || c = '_' then
    roundBy m scale ((rest.head?.bind digit?).getD 0)
  else none

/-- The first magnitude that is too large for the short form, in which one more digit is sure to
fit 64 bits. -/
def shortLimit : Nat := 1844674407370954906

/-- The magnitude and scale of digits, of which `m` with `scale` fraction digits came earlier.
`seen` tells whether a digit came earlier and `fraction` whether the point did.

The 28th fraction digit is the last one and is rounded by what follows it, with one exception:
behind a magnitude beyond the short form an underscore keeps the number open, and the next digit
is taken as well if it still fits 96 bits. -/
def takeDigits? (seen fraction : Bool) (m scale : Nat) : List Char → Option (Nat × Nat)
  | [] => if seen then some (m, scale) else none
  | c :: cs =>
    match digit? c with
    | some d =>
      let places := if fraction then scale + 1 else scale
      if coeffLimit ≤ 10 * m + d then
        if fraction then roundAt m scale (c :: cs) else none
      else if 28 ≤ places ∧ ¬(shortLimit ≤ m ∧ cs.head? = some '_') then
        roundAt (10 * m + d) places cs
      else takeDigits? true fraction (10 * m + d) places cs
    | none =>
      if c = '.' ∧ fraction = false then takeDigits? seen true m scale cs
      else if c = '_' ∧ seen = true then takeDigits? seen fraction m scale cs
      else none

/-- A number in plain notation. A zero is positive, whatever its sign. The scale counts the
fraction digits up to 28 and starts again at zero for one more. -/
def readPlain? (cs : List Char) : Option Decimal := do
  let (negative, rest) := splitSign cs
  let (m, scale) ← takeDigits? false false 0 0 rest
  ofSigned? (negative && m ≠ 0) m (scale % 29)

/-! ## Scientific notation -/

/-- `m / 10 ^ places` rounded to the nearest natural number, a half upwards. -/
def dropPlaces (m places : Nat) : Nat := (m + tenTo places / 2) / tenTo places

/-- `d` divided by `10 ^ exponent`, with the fraction digits beyond 28 rounded off. The sign stays,
also where nothing is left but zero. -/
def shiftRight? (d : Decimal) (exponent : Nat) : Option Decimal :=
  if 28 < exponent then none
  else if d.scale + exponent ≤ 28 then ofSigned? d.negative d.magnitude (d.scale + exponent)
  else ofSigned? d.negative (dropPlaces d.magnitude (d.scale + exponent - 28)) 28

/-- `d` multiplied by `10 ^ exponent`, which uses up fraction digits before it adds zeros. -/
def shiftLeft? (d : Decimal) (exponent : Nat) : Option Decimal :=
  if exponent ≤ d.scale then ofSigned? d.negative d.magnitude (d.scale - exponent)
  else if 28 < exponent then none
  else ofSigned? d.negative (d.magnitude * tenTo (exponent - d.scale)) 0

/-- The largest exponent that is read as a number at all. -/
def topExponent : Nat := 4294967295

/-- A number in scientific notation: a plain one, `e` or `E`, and an exponent. -/
def readScientific? (cs : List Char) : Option Decimal :=
  match cs.dropWhile (fun c => c ≠ 'e' ∧ c ≠ 'E') with
  | [] => none
  | _ :: exponent => do
    let d ← readPlain? (cs.takeWhile fun c => c ≠ 'e' ∧ c ≠ 'E')
    match exponent with
    | '-' :: digits => shiftRight? d (← readNat? topExponent digits)
    | _ => shiftLeft? d (← readNat? topExponent exponent)

/-- A number in either notation, without blanks around it. -/
def read? (cs : List Char) : Option Decimal :=
  readPlain? cs <|> readScientific? cs

/-- The text of a decimal, read without the blanks around it. -/
def readTrimmed? (s : String) : Option Decimal :=
  read? (trim s.toList)

end TickChart.Decimal
