import TickChart.Number.Double
import TickChart.Text.Integer
import TickChart.Time.Printer
import TickChart.Time.Reader

/-!
# Digits, written and read

What writes numbers writes the digits of their values, and what reads them takes digits as long as
there are any.

* `digitsOf`: the digit values of a number. `digits_eq` and `paddedDigits_eq`: they are what is
  written.
* `natOfDigits_digitsOf`, `natOfDigits_pad`: they make up the number again, also behind zeros.
* `digitsOf_eq_zero_cons`: there is no leading zero. `length_digitsOf_le`: how many there are.
* `NoDigit`: a text that does not go on with a digit.
* `spanDigits_append`, `takeDigits_append`, `number?_append`: digits are read up to there.
-/

namespace TickChart.Text

/-- The digit values of `n`, most significant first. -/
def digitsOf (n : Nat) : List Nat :=
  if n < 10 then [n] else digitsOf (n / 10) ++ [n % 10]
termination_by n
decreasing_by omega

/-- The digits of digit values. -/
def written (ds : List Nat) : List Char := ds.map digitChar

variable {n k : Nat} {ds : List Nat} {rest : List Char}

@[simp] theorem written_nil : written [] = [] := rfl

@[simp] theorem written_cons (d : Nat) (ds : List Nat) :
    written (d :: ds) = digitChar d :: written ds := rfl

theorem written_append (a b : List Nat) : written (a ++ b) = written a ++ written b :=
  List.map_append

@[simp] theorem length_written (ds : List Nat) : (written ds).length = ds.length :=
  List.length_map digitChar

theorem written_replicate_zero (k : Nat) : written (List.replicate k 0) = List.replicate k '0' :=
  List.map_replicate

/-! ## Values -/

theorem digits_eq (n : Nat) : digits n = written (digitsOf n) := by
  induction n using digits.induct with
  | case1 n h => rw [digits, if_pos h, digitsOf, if_pos h, written_cons, written_nil]
  | case2 n h ih =>
    rw [digits, if_neg h, digitsOf, if_neg h, written_append, ih, written_cons, written_nil]

theorem lt_ten_of_mem_digitsOf : ∀ d ∈ digitsOf n, d < 10 := by
  induction n using digitsOf.induct with
  | case1 n h =>
    rw [digitsOf, if_pos h]
    simpa using h
  | case2 n h ih =>
    rw [digitsOf, if_neg h]
    intro d hd
    rcases List.mem_append.mp hd with hd | hd
    · exact ih d hd
    · rw [List.mem_singleton.mp hd]
      exact Nat.mod_lt n (by decide)

theorem digitsOf_ne_nil (n : Nat) : digitsOf n ≠ [] := by
  rw [digitsOf]
  split <;> simp

theorem natOfDigits_digitsOf (n : Nat) : natOfDigits 0 (digitsOf n) = n := by
  induction n using digitsOf.induct with
  | case1 n h => rw [digitsOf, if_pos h]; simp
  | case2 n h ih =>
    rw [digitsOf, if_neg h, natOfDigits_append, ih, natOfDigits_cons, natOfDigits_nil]
    omega

/-- There is no leading zero. -/
theorem digitsOf_eq_zero_cons (h : digitsOf n = 0 :: ds) : n = 0 ∧ ds = [] := by
  induction n using digitsOf.induct generalizing ds with
  | case1 n hn =>
    rw [digitsOf, if_pos hn] at h
    cases h
    exact ⟨rfl, rfl⟩
  | case2 n hn ih =>
    rw [digitsOf, if_neg hn] at h
    cases hfront : digitsOf (n / 10) with
    | nil => exact absurd hfront (digitsOf_ne_nil _)
    | cons d front =>
      rw [hfront, List.cons_append] at h
      cases h
      have hzero := (ih hfront).1
      omega

/-- A number below a power of ten has no more digits than that has zeros. -/
theorem length_digitsOf_le (hk : 0 < k) (h : n < tenTo k) : (digitsOf n).length ≤ k := by
  induction n using digitsOf.induct generalizing k with
  | case1 n hn =>
    rw [digitsOf, if_pos hn]
    exact hk
  | case2 n hn ih =>
    cases k with
    | zero => exact absurd hk (Nat.lt_irrefl 0)
    | succ k =>
      rw [tenTo_succ] at h
      have hk' : 0 < k := by
        rcases Nat.eq_zero_or_pos k with rfl | hpos
        · rw [tenTo_zero] at h
          omega
        · exact hpos
      have hlength := ih hk' (by omega)
      rw [digitsOf, if_neg hn, List.length_append, List.length_singleton]
      omega

/-- Zeros in front change nothing. -/
theorem natOfDigits_pad (k : Nat) (ds : List Nat) :
    natOfDigits 0 (List.replicate k 0 ++ ds) = natOfDigits 0 ds := by
  induction k with
  | zero => rfl
  | succ k ih => rw [List.replicate_succ, List.cons_append, natOfDigits_cons]; exact ih

/-- Further digits make no number smaller. -/
theorem le_natOfDigits (n : Nat) (ds : List Nat) : n ≤ natOfDigits n ds := by
  induction ds generalizing n with
  | nil => exact Nat.le_refl n
  | cons d ds ih =>
    rw [natOfDigits_cons]
    exact Nat.le_trans (by omega) (ih (10 * n + d))

theorem digitValues?_written (h : ∀ d ∈ ds, d < 10) : digitValues? (written ds) = some ds := by
  induction ds with
  | nil => rfl
  | cons d ds ih =>
    rw [List.forall_mem_cons] at h
    have hrest := ih h.2
    simp only [digitValues?] at hrest ⊢
    simp [digit?_digitChar h.1, hrest]

/-! ## Padding -/

/-- The digit values of `n` behind as many zeros as make up `width` of them. -/
def paddedOf (width n : Nat) : List Nat :=
  List.replicate (width - (digitsOf n).length) 0 ++ digitsOf n

theorem paddedDigits_eq (width n : Nat) : paddedDigits width n = written (paddedOf width n) := by
  simp only [paddedDigits, paddedOf, written_append, written_replicate_zero, digits_eq,
    length_written]

theorem lt_ten_of_mem_paddedOf {width : Nat} : ∀ d ∈ paddedOf width n, d < 10 := by
  intro d hd
  rcases List.mem_append.mp hd with hd | hd
  · rw [List.eq_of_mem_replicate hd]
    decide
  · exact lt_ten_of_mem_digitsOf d hd

@[simp] theorem natOfDigits_paddedOf (width n : Nat) : natOfDigits 0 (paddedOf width n) = n := by
  rw [paddedOf, natOfDigits_pad, natOfDigits_digitsOf]

/-- The text does not go on with a digit. -/
def NoDigit (rest : List Char) : Prop := ∀ c ∈ rest.head?, digit? c = none

theorem noDigit_nil : NoDigit [] := fun _ hc => nomatch hc

theorem noDigit_cons {c : Char} (h : digit? c = none) : NoDigit (c :: rest) := by
  intro d hd
  cases hd
  exact h

/-- Digits do not begin with a character that is none. -/
theorem written_ne_cons {c : Char} (hds : ∀ d ∈ ds, d < 10) (hne : ds ≠ []) (hc : digit? c = none)
    (more : List Char) : written ds ++ rest ≠ c :: more := by
  cases ds with
  | nil => exact absurd rfl hne
  | cons d ds =>
    intro h
    rw [written_cons, List.cons_append, List.cons.injEq] at h
    rw [← h.1, digit?_digitChar (hds d List.mem_cons_self)] at hc
    cases hc

/-- Digits are read up to what is none. -/
theorem spanDigits_append (hds : ∀ d ∈ ds, d < 10) (hrest : NoDigit rest) :
    spanDigits (written ds ++ rest) = (ds, rest) := by
  induction ds with
  | nil =>
    cases rest with
    | nil => rfl
    | cons c rest => simp [spanDigits, hrest c rfl]
  | cons d ds ih =>
    rw [List.forall_mem_cons] at hds
    simp only [written_cons, List.cons_append, spanDigits, digit?_digitChar hds.1, ih hds.2]

open Time in
/-- Digits are read up to what is none, or as many as there may be. -/
theorem takeDigits_append (hds : ∀ d ∈ ds, d < 10) (hle : ds.length ≤ k)
    (hrest : ds.length = k ∨ NoDigit rest) : takeDigits k (written ds ++ rest) = (ds, rest) := by
  induction ds generalizing k with
  | nil =>
    rw [written_nil, List.nil_append]
    cases k with
    | zero => cases rest <;> rfl
    | succ k =>
      have hnone := hrest.resolve_left (by simp)
      cases rest with
      | nil => rfl
      | cons c rest => simp [takeDigits, hnone c rfl]
  | cons d ds ih =>
    rw [List.forall_mem_cons] at hds
    cases k with
    | zero => simp at hle
    | succ k =>
      simp only [List.length_cons, Nat.add_le_add_iff_right, Nat.add_right_cancel_iff] at hle hrest
      simp only [written_cons, List.cons_append, takeDigits, digit?_digitChar hds.1,
        ih hds.2 hle hrest]

open Time in
/-- A number is read from its digits. -/
theorem number?_append {least : Nat} (hds : ∀ d ∈ ds, d < 10) (hleast : least ≤ ds.length)
    (hle : ds.length ≤ k) (hrest : ds.length = k ∨ NoDigit rest) :
    number? least k (written ds ++ rest) = some (natOfDigits 0 ds, rest) := by
  simp only [number?, takeDigits_append hds hle hrest, if_neg (Nat.not_lt.mpr hleast)]

end TickChart.Text
