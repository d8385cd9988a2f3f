import TickChart.Text.Ascii

/-!
# Punycode

A label of a domain in ASCII. The ASCII characters come first; behind them stand the places and the
code points of the others, as the steps of a walk through all places and code points, in numbers of
base 36 whose digits have changing limits.

* `punycode`: the ASCII form of a label.
* `unpunycode?`: the label of an ASCII form.
-/

namespace TickChart.Url

/-- The digit of a value below 36: the letters first, then the digits. -/
def punyChar (d : Nat) : Char :=
  if d < 26 then Char.ofNat (0x61 + d) else Text.digitChar (d - 26)

/-- The value of a digit. -/
def punyDigit? (c : Char) : Option Nat :=
  if 'a' ≤ c ∧ c ≤ 'z' then some (c.toNat - 0x61)
  else if 'A' ≤ c ∧ c ≤ 'Z' then some (c.toNat - 0x41)
  else (Text.digit? c).map (· + 26)

/-- The limit of the digit at a place: a smaller digit ends its number. -/
def punyLimit (place bias : Nat) : Nat :=
  if place ≤ bias then 1 else min 26 (place - bias)

theorem punyLimit_pos (place bias : Nat) : 1 ≤ punyLimit place bias := by
  unfold punyLimit
  split <;> omega

theorem punyLimit_le (place bias : Nat) : punyLimit place bias ≤ 26 := by
  unfold punyLimit
  split <;> omega

/-- The bias that fits steps of the size of `delta`. -/
def biasFor (delta place : Nat) : Nat :=
  if 455 < delta then biasFor (delta / 35) (place + 36) else place + 36 * delta / (delta + 38)
termination_by delta
decreasing_by omega

/-- The bias after a step `delta`, of which there were `count` characters before. -/
def nextBias (delta count : Nat) (first : Bool) : Nat :=
  let scaled := if first then delta / 700 else delta / 2
  biasFor (scaled + scaled / count) 0

/-- A number from the digit at a place on. -/
def punyNumber (bias place n : Nat) : List Char :=
  let limit := punyLimit place bias
  if n < limit then [punyChar n]
  else
    punyChar (limit + (n - limit) % (36 - limit)) ::
      punyNumber bias (place + 36) ((n - limit) / (36 - limit))
termination_by n
decreasing_by
  have h₁ := punyLimit_pos place bias
  have h₂ := Nat.div_le_self (n - punyLimit place bias) (36 - punyLimit place bias)
  omega

/-- A walk on its way: what was written, the steps since, the bias, and the characters that are
placed. -/
structure PunyWalk where
  written : List Char
  delta : Nat
  bias : Nat
  placed : Nat

/-- The walk past one character of the label, for the code point `n`. -/
def PunyWalk.pass (basic n : Nat) (w : PunyWalk) (c : Char) : PunyWalk :=
  if c.toNat < n then { w with delta := w.delta + 1 }
  else if c.toNat = n then
    { written := w.written ++ punyNumber w.bias 36 w.delta
      delta := 0
      bias := nextBias w.delta (w.placed + 1) (w.placed == basic)
      placed := w.placed + 1 }
  else w

/-- The walk over the code points that are left, from the code point `n` on. -/
def PunyWalk.through (label : List Char) (basic : Nat) : List Nat → Nat → PunyWalk → PunyWalk
  | [], _, w => w
  | m :: rest, n, w =>
    let w := label.foldl (pass basic m) { w with delta := w.delta + (m - n) * (w.placed + 1) }
    through label basic rest (m + 1) { w with delta := w.delta + 1 }

/-- Numbers in ascending order, each of them once. -/
def ascending (ns : List Nat) : List Nat :=
  (ns.mergeSort (· ≤ ·)).eraseDups

/-- The ASCII form of a label. -/
def punycode (label : List Char) : List Char :=
  let basic := label.filter (·.toNat < 0x80)
  let others := ascending ((label.filter (0x80 ≤ ·.toNat)).map Char.toNat)
  let walk := PunyWalk.through label basic.length others 128 ⟨[], 0, 72, basic.length⟩
  basic ++ (if basic.isEmpty then [] else ['-']) ++ walk.written

/-- A number at the front of a text, from the digit at a place on, and what follows it. -/
def readPunyNumber? (bias : Nat) : List Char → Nat → Nat → Nat → Option (Nat × List Char)
  | [], _, _, _ => none
  | c :: cs, place, weight, n =>
    match punyDigit? c with
    | none => none
    | some d =>
      let limit := punyLimit place bias
      if d < limit then some (n + d * weight, cs)
      else readPunyNumber? bias cs (place + 36) (weight * (36 - limit)) (n + d * weight)

/-- The label after the steps that a text writes. Every step takes up a character of the text, which
bounds the recursion. -/
def placeAll? : Nat → Nat → Nat → Nat → List Char → List Char → Option (List Char)
  | _, _, _, _, label, [] => some label
  | 0, _, _, _, _, _ => none
  | fuel + 1, bias, n, i, label, cs =>
    match readPunyNumber? bias cs 36 1 i with
    | none => none
    | some (j, rest) =>
      let count := label.length + 1
      let code := n + j / count
      if code < 0xD800 ∨ (0xDFFF < code ∧ code < 0x110000) then
        placeAll? fuel (nextBias (j - i) count (i == 0)) code (j % count + 1)
          (label.insertIdx (j % count) (Char.ofNat code)) rest
      else none

/-- The label of an ASCII form. -/
def unpunycode? (cs : List Char) : Option (List Char) :=
  let behind := (cs.reverse.takeWhile (· ≠ '-')).reverse
  let basic := cs.take (cs.length - behind.length - 1)
  placeAll? behind.length 72 128 0 basic behind

end TickChart.Url
