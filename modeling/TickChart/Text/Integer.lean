import TickChart.Text.Ascii

/-!
# Integers in decimal notation

* `tenTo`, `twoTo`: the powers of the two bases that numbers are written and stored in.
  `tenTo_succ`, `tenTo_add`: how powers of ten are built up.
* `digits`: the decimal digits of a natural number, without leading zeros.
* `natOfDigits`: the number that a list of digit values writes.
* `readDigits?`: a text of digits only, at least one.
* `readNat?`, `readInt?`: a number within a bound, with the signs that the two kinds allow.
* `readDigits?_digits`: reading gives back what was written.
-/

namespace TickChart

/-! ## Powers -/

/-- Ten to the power `n`. -/
def tenTo (n : Nat) : Nat := Nat.pow 10 n

/-- Two to the power `n`. -/
def twoTo (n : Nat) : Nat := Nat.pow 2 n

@[simp] theorem tenTo_zero : tenTo 0 = 1 := rfl

theorem tenTo_succ (n : Nat) : tenTo (n + 1) = tenTo n * 10 := rfl

theorem tenTo_add (m n : Nat) : tenTo (m + n) = tenTo m * tenTo n := by
  induction n with
  | zero => simp
  | succ n ih => rw [← Nat.add_assoc, tenTo_succ, ih, tenTo_succ, Nat.mul_assoc]

theorem tenTo_pos (n : Nat) : 0 < tenTo n := Nat.pow_pos (by decide)

namespace Text

/-! ## Digits -/

/-- The decimal digits of `n`, most significant first; `0` has one digit. -/
def digits (n : Nat) : List Char :=
  if n < 10 then [digitChar n] else digits (n / 10) ++ [digitChar (n % 10)]
termination_by n
decreasing_by omega

/-- An integer in decimal notation, with a sign only below zero. -/
def intDigits (n : Int) : List Char :=
  if n < 0 then '-' :: digits n.natAbs else digits n.natAbs

/-- The number written by digit values, most significant first, after the digits of `start`. -/
def natOfDigits (start : Nat) (ds : List Nat) : Nat :=
  ds.foldl (fun n d => 10 * n + d) start

/-- The digit values of a text that holds nothing else. -/
def digitValues? (cs : List Char) : Option (List Nat) :=
  cs.mapM digit?

/-- The number written by a text of digits only, at least one. -/
def readDigits? (cs : List Char) : Option Nat :=
  if cs.isEmpty then none else (digitValues? cs).map (natOfDigits 0)

/-- A natural number up to `top`: digits, after a plus sign or none. -/
def readNat? (top : Nat) (cs : List Char) : Option Nat :=
  (readDigits? (match cs with | '+' :: rest => rest | _ => cs)).filter (· ≤ top)

/-- An integer from `low` to `top`: digits, after a sign or none. -/
def readInt? (low top : Int) (cs : List Char) : Option Int :=
  let value : Option Int :=
    match cs with
    | '-' :: rest => (readDigits? rest).map fun n => -(n : Int)
    | '+' :: rest => (readDigits? rest).map Int.ofNat
    | _ => (readDigits? cs).map Int.ofNat
  value.filter fun n => low ≤ n && n ≤ top

@[simp] theorem natOfDigits_nil (start : Nat) : natOfDigits start [] = start := rfl

@[simp] theorem natOfDigits_cons (start d : Nat) (ds : List Nat) :
    natOfDigits start (d :: ds) = natOfDigits (10 * start + d) ds := rfl

theorem natOfDigits_append (start : Nat) (a b : List Nat) :
    natOfDigits start (a ++ b) = natOfDigits (natOfDigits start a) b := by
  simp [natOfDigits]

theorem digits_ne_nil (n : Nat) : digits n ≠ [] := by
  rw [digits]
  split <;> simp

/-- The digits of a number are digits, and they write it. -/
theorem digitValues?_digits (n : Nat) :
    ∃ ds, digitValues? (digits n) = some ds ∧ natOfDigits 0 ds = n := by
  induction n using digits.induct with
  | case1 n h =>
    refine ⟨[n], ?_, by simp⟩
    rw [digits, if_pos h]
    simp [digitValues?, digit?_digitChar h]
  | case2 n h ih =>
    obtain ⟨ds, hds, hval⟩ := ih
    refine ⟨ds ++ [n % 10], ?_, ?_⟩
    · rw [digits, if_neg h]
      simp only [digitValues?] at hds ⊢
      simp [hds, digit?_digitChar (Nat.mod_lt n (by decide : 10 > 0))]
    · rw [natOfDigits_append, hval]
      simp
      omega

/-- Reading gives back what was written. -/
theorem readDigits?_digits (n : Nat) : readDigits? (digits n) = some n := by
  obtain ⟨ds, hds, hval⟩ := digitValues?_digits n
  have hne : (digits n).isEmpty = false := by
    simpa using digits_ne_nil n
  simp [readDigits?, hne, hds, hval]

end Text

end TickChart
