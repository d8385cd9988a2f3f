/-!
# ASCII characters

Digits and letters of ASCII, and comparison that takes no account of their case. Letters beyond
ASCII keep their case here; `TickChart.Text.upper` knows them.

* `digit?`: the value of a decimal digit.
* `hexDigit?`: the value of a hexadecimal digit of either case.
* `lowerAscii`, `eqIgnoringCase`: the case of the letters `A` to `Z`.
-/

namespace TickChart.Text

/-- The value of a decimal digit `0` to `9`. -/
def digit? (c : Char) : Option Nat :=
  if '0' ≤ c ∧ c ≤ '9' then some (c.toNat - '0'.toNat) else none

/-- `c` is one of `0` to `9`. -/
def isDigit (c : Char) : Bool :=
  (digit? c).isSome

/-- The character of a decimal digit; `0` for a value above nine. -/
def digitChar : Nat → Char
  | 0 => '0' | 1 => '1' | 2 => '2' | 3 => '3' | 4 => '4'
  | 5 => '5' | 6 => '6' | 7 => '7' | 8 => '8' | 9 => '9'
  | _ => '0'

/-- The value of a hexadecimal digit, of either case. -/
def hexDigit? (c : Char) : Option Nat :=
  if '0' ≤ c ∧ c ≤ '9' then some (c.toNat - '0'.toNat)
  else if 'a' ≤ c ∧ c ≤ 'f' then some (c.toNat - 'a'.toNat + 10)
  else if 'A' ≤ c ∧ c ≤ 'F' then some (c.toNat - 'A'.toNat + 10)
  else none

/-- The character of a hexadecimal digit, in lower case; `0` for a value above fifteen. -/
def hexChar : Nat → Char
  | 10 => 'a' | 11 => 'b' | 12 => 'c' | 13 => 'd' | 14 => 'e' | 15 => 'f'
  | n => digitChar n

/-- A letter `A` to `Z` or `a` to `z`. -/
def isAsciiLetter (c : Char) : Bool :=
  ('a' ≤ c && c ≤ 'z') || ('A' ≤ c && c ≤ 'Z')

/-- Letters `A` to `Z` in lower case, every other character unchanged. -/
def lowerAscii (cs : List Char) : List Char :=
  cs.map Char.toLower

/-- The two texts differ at most in the case of the letters `A` to `Z`. -/
def eqIgnoringCase (a b : List Char) : Bool :=
  lowerAscii a == lowerAscii b

theorem digit?_digitChar {d : Nat} (h : d < 10) : digit? (digitChar d) = some d := by
  rcases d with _ | _ | _ | _ | _ | _ | _ | _ | _ | _ | d <;> first | rfl | omega

theorem isDigit_digitChar {d : Nat} (h : d < 10) : isDigit (digitChar d) = true := by
  simp [isDigit, digit?_digitChar h]

theorem digit?_lt {c : Char} {d : Nat} (h : digit? c = some d) : d < 10 := by
  simp only [digit?] at h
  split at h
  · next hc =>
    have h₁ : c.toNat ≤ 57 := hc.2
    have h₂ : '0'.toNat = 48 := rfl
    cases h
    omega
  · cases h

end TickChart.Text
