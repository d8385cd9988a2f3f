/-!
# White space and parts

The Unicode property White_Space (25 characters, fixed since version 6.3), trimming and splitting
a text into words by it, and splitting a text into parts at separators.

* `isBlank`: membership in the property.
* `trimStart`, `trimEnd`, `trim`: a text without the blanks at its ends.
* `words`: the maximal runs of characters that are not blank.
* `not_isBlank_head_trimStart`: what is left of a trimmed text does not begin with a blank.
* `splitOn`: the parts between separators, of which there is always at least one.
  `flatten_splitOn`: nothing but the separators is lost.
-/

namespace TickChart.Text

/-! ## White space -/

/-- The closed ranges of code points with the property White_Space, ascending and apart. -/
def blankRanges : List (Nat × Nat) :=
  [(0x09, 0x0D), (0x20, 0x20), (0x85, 0x85), (0xA0, 0xA0), (0x1680, 0x1680), (0x2000, 0x200A),
   (0x2028, 0x2029), (0x202F, 0x202F), (0x205F, 0x205F), (0x3000, 0x3000)]

/-- `c` is white space. The zero-width space and the byte order mark are not. -/
def isBlank (c : Char) : Bool :=
  blankRanges.any fun r => r.1 ≤ c.toNat && c.toNat ≤ r.2

/-- The text from its first character that is not blank. -/
def trimStart (cs : List Char) : List Char :=
  cs.dropWhile isBlank

/-- The text up to its last character that is not blank. -/
def trimEnd (cs : List Char) : List Char :=
  (trimStart cs.reverse).reverse

/-- The text without blanks at either end. -/
def trim (cs : List Char) : List Char :=
  trimEnd (trimStart cs)

theorem length_dropWhile_le {α : Type} (p : α → Bool) (xs : List α) :
    (xs.dropWhile p).length ≤ xs.length :=
  (List.dropWhile_suffix p).length_le

/-- The words of a text: its maximal runs of characters that are not blank, in order. -/
def words (cs : List Char) : List (List Char) :=
  match _h : trimStart cs with
  | [] => []
  | c :: rest =>
    (c :: rest.takeWhile (!isBlank ·)) :: words (rest.dropWhile (!isBlank ·))
termination_by cs.length
decreasing_by
  have h₁ : (trimStart cs).length ≤ cs.length := length_dropWhile_le _ _
  have h₂ := length_dropWhile_le (!isBlank ·) rest
  rw [_h] at h₁
  simp only [List.length_cons] at h₁
  omega

/-- What is left of a trimmed text does not begin with a blank. -/
theorem not_isBlank_head_trimStart {cs : List Char} {c : Char} {rest : List Char}
    (h : trimStart cs = c :: rest) : isBlank c = false := by
  have := List.head?_dropWhile_not isBlank cs
  rw [trimStart] at h
  simpa [h] using this

theorem trimStart_of_not_isBlank {c : Char} {rest : List Char} (h : isBlank c = false) :
    trimStart (c :: rest) = c :: rest := by
  simp [trimStart, h]

theorem trimStart_append_of_blank {pad cs : List Char} (h : ∀ c ∈ pad, isBlank c = true) :
    trimStart (pad ++ cs) = trimStart cs := by
  induction pad with
  | nil => rfl
  | cons c pad ih =>
    have hc := h c (by simp)
    rw [List.cons_append, trimStart, List.dropWhile_cons_of_pos hc]
    exact ih fun d hd => h d (by simp [hd])

/-! ## Parts -/

/-- The parts of a text between separators, one more than there are separators. -/
def splitOn (separator : Char → Bool) : List Char → List (List Char)
  | [] => [[]]
  | c :: cs =>
    if separator c then [] :: splitOn separator cs
    else
      match splitOn separator cs with
      | part :: parts => (c :: part) :: parts
      | [] => [[c]]

theorem splitOn_ne_nil (separator : Char → Bool) (cs : List Char) : splitOn separator cs ≠ [] := by
  cases cs with
  | nil => simp [splitOn]
  | cons c cs =>
    rw [splitOn]
    split
    · simp
    · split <;> simp

/-- Nothing but the separators is lost. -/
theorem flatten_splitOn (separator : Char → Bool) (cs : List Char) :
    (splitOn separator cs).flatten = cs.filter (!separator ·) := by
  induction cs with
  | nil => rfl
  | cons c cs ih =>
    rw [splitOn]
    split
    · next h => simp [h, ih]
    · next h =>
      split
      · next part parts hp =>
        rw [hp] at ih
        simp_all
      · next hp => exact (splitOn_ne_nil separator cs hp).elim

end TickChart.Text
