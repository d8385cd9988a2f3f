import TickChart.Text.Integer

/-!
# Decimals of 96 bits

A decimal is a sign and a natural number of at most 96 bits, divided by a power of ten up to
`10 ^ 28`. The power is part of the value: `1.5` and `1.50` are equal as numbers and are written
differently. So is the sign of a zero: a negative number that is rounded to zero keeps its sign.

* `Decimal`: the sign, the magnitude and the scale, with their bounds.
* `Decimal.coeff`: the magnitude with its sign.
* `Decimal.toRat`: the number that a decimal stands for.
* `≤` and `<`: the order of the numbers, whatever the scales.
* `add?`: the exact sum at the larger scale. A sum that needs more than 96 bits gives up as few
  fraction digits as possible, a half going to the even neighbour; without enough fraction digits
  there is no sum.
* `text`: the number in plain notation with exactly `scale` fraction digits.
-/

namespace TickChart

/-- The first number that takes more than 96 bits. -/
def coeffLimit : Nat := 79228162514264337593543950336

/-- A decimal number `± magnitude / 10 ^ scale`. -/
structure Decimal where
  negative : Bool
  magnitude : Nat
  scale : Nat
  magnitude_lt : magnitude < coeffLimit
  scale_le : scale ≤ 28
deriving DecidableEq

namespace Decimal

/-- The decimal with this sign, magnitude and scale, if they are within the bounds. -/
def ofSigned? (negative : Bool) (magnitude scale : Nat) : Option Decimal :=
  if h : magnitude < coeffLimit ∧ scale ≤ 28 then some ⟨negative, magnitude, scale, h.1, h.2⟩
  else none

/-- The decimal `coeff / 10 ^ scale`, if it is within the bounds. A zero is positive. -/
def ofCoeff? (coeff : Int) (scale : Nat) : Option Decimal :=
  ofSigned? (decide (coeff < 0)) coeff.natAbs scale

/-- Zero without fraction digits. -/
def zero : Decimal := ⟨false, 0, 0, by decide, by decide⟩

instance : Inhabited Decimal := ⟨zero⟩

/-- The integer `n` without fraction digits, if it has at most 96 bits. -/
def ofInt? (n : Int) : Option Decimal := ofCoeff? n 0

/-- The magnitude with its sign; both zeros have the coefficient `0`. -/
def coeff (d : Decimal) : Int := if d.negative then -(d.magnitude : Int) else d.magnitude

/-- The number that the decimal stands for. -/
def toRat (d : Decimal) : Rat := mkRat d.coeff (tenTo d.scale)

/-! ## Order -/

/-- The coefficient of `d` for a denominator of `10 ^ (d.scale + places)`. -/
def scaled (d : Decimal) (places : Nat) : Int := d.coeff * tenTo places

instance : LE Decimal := ⟨fun a b => a.scaled b.scale ≤ b.scaled a.scale⟩

instance : LT Decimal := ⟨fun a b => a.scaled b.scale < b.scaled a.scale⟩

instance (a b : Decimal) : Decidable (a ≤ b) :=
  inferInstanceAs (Decidable (a.scaled b.scale ≤ b.scaled a.scale))

instance (a b : Decimal) : Decidable (a < b) :=
  inferInstanceAs (Decidable (a.scaled b.scale < b.scaled a.scale))

/-- The greater of two decimals, the first where they are equal as numbers. -/
def highest (a b : Decimal) : Decimal := if a < b then b else a

/-- The smaller of two decimals, the first where they are equal as numbers. -/
def lowest (a b : Decimal) : Decimal := if b < a then b else a

/-! ## Addition -/

/-- `n / d` rounded to the nearest integer, a half to the even one. -/
def divHalfEven (n : Int) (d : Nat) : Int :=
  let q := n.natAbs / d
  let r := n.natAbs % d
  let rounded := if 2 * r < d ∨ (2 * r = d ∧ q % 2 = 0) then q else q + 1
  if n < 0 then -(rounded : Int) else rounded

/-- `n / 10 ^ scale` with the most fraction digits that 96 bits and the bound on scales allow. -/
def fit? (n : Int) (scale : Nat) : Option Decimal :=
  (List.range (scale + 1)).findSome? fun dropped =>
    ofCoeff? (divHalfEven n (tenTo dropped)) (scale - dropped)

/-- The sum, or nothing if it does not fit 96 bits even without fraction digits. A zero operand
leaves the other one as it is, with its scale and the sign of a zero. -/
def add? (a b : Decimal) : Option Decimal :=
  if a.magnitude = 0 then some b
  else if b.magnitude = 0 then some a
  else
    let scale := max a.scale b.scale
    fit? (a.scaled (scale - a.scale) + b.scaled (scale - b.scale)) scale

/-! ## Notation -/

/-- The digits of a natural number with a point before the last `scale` of them, and at least one
digit before the point. -/
def placePoint (n scale : Nat) : List Char :=
  let ds := Text.digits n
  let padded := List.replicate (scale + 1 - ds.length) '0' ++ ds
  if scale = 0 then ds
  else padded.take (padded.length - scale) ++ '.' :: padded.drop (padded.length - scale)

/-- The decimal in plain notation. -/
def chars (d : Decimal) : List Char :=
  if d.negative then '-' :: placePoint d.magnitude d.scale else placePoint d.magnitude d.scale

/-- The decimal in plain notation, as text. -/
def text (d : Decimal) : String := String.ofList d.chars

theorem ofSigned?_eq_some_iff {negative : Bool} {magnitude scale : Nat} {d : Decimal} :
    ofSigned? negative magnitude scale = some d ↔
      d.negative = negative ∧ d.magnitude = magnitude ∧ d.scale = scale := by
  constructor
  · intro h
    simp only [ofSigned?] at h
    split at h <;> cases h
    exact ⟨rfl, rfl, rfl⟩
  · rintro ⟨rfl, rfl, rfl⟩
    exact dif_pos ⟨d.magnitude_lt, d.scale_le⟩

/-- Every decimal is rebuilt from its parts. -/
theorem ofSigned?_parts (d : Decimal) : ofSigned? d.negative d.magnitude d.scale = some d :=
  ofSigned?_eq_some_iff.2 ⟨rfl, rfl, rfl⟩

theorem coeff_of_ofCoeff? {n : Int} {scale : Nat} {d : Decimal} (h : ofCoeff? n scale = some d) :
    d.coeff = n ∧ d.scale = scale := by
  obtain ⟨hs, hm, rfl⟩ := ofSigned?_eq_some_iff.1 h
  refine ⟨?_, rfl⟩
  simp only [coeff, hs, hm, decide_eq_true_eq]
  split <;> omega

theorem natAbs_coeff (d : Decimal) : d.coeff.natAbs = d.magnitude := by
  simp only [coeff]
  split <;> omega

theorem divHalfEven_one (n : Int) : divHalfEven n 1 = n := by
  simp only [divHalfEven, Nat.div_one, Nat.mod_one]
  split <;> split <;> omega

/-- A number within the bounds keeps all its fraction digits. -/
theorem fit?_of_fits {n : Int} {scale : Nat} {d : Decimal} (h : ofCoeff? n scale = some d) :
    fit? n scale = some d := by
  rw [fit?, List.range_succ_eq_map]
  simp [divHalfEven_one, h]

end Decimal

end TickChart
