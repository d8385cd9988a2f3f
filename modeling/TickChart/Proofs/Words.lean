import Mathlib.Data.List.TakeWhile
import TickChart.Proofs.Casing

/-!
# Blanks around words

A text without blanks at its ends is what is left when it is trimmed, and a line falls into the
words that stand between its blanks.

* `Bare`: a text has no blanks at its ends. `bare_trim`, `trim_of_bare`: trimming makes it so, and
  leaves it then. `Bare.upper`: upper case keeps it so.
* `words_blank_append`, `words_append`, `words_of_blank`: a line from its beginning, through blanks
  and words, to its end.
-/

namespace TickChart.Text

variable {cs pad word rest : List Char} {c : Char}

/-! ## Ends of texts -/

/-- The text neither begins nor ends with a blank. -/
def Bare (cs : List Char) : Prop :=
  (∀ c ∈ cs.head?, isBlank c = false) ∧ ∀ c ∈ cs.getLast?, isBlank c = false

theorem not_isBlank_of_mem_head?_trimStart (h : c ∈ (trimStart cs).head?) : isBlank c = false := by
  obtain ⟨rest, hrest⟩ := List.head?_eq_some_iff.mp h
  exact not_isBlank_head_trimStart hrest

theorem trimStart_eq_self (h : ∀ c ∈ cs.head?, isBlank c = false) : trimStart cs = cs := by
  cases cs with
  | nil => rfl
  | cons c cs => exact trimStart_of_not_isBlank (h c rfl)

theorem trim_of_bare (h : Bare cs) : trim cs = cs := by
  have hreverse : ∀ c ∈ cs.reverse.head?, isBlank c = false := by
    rw [List.head?_reverse]
    exact h.2
  rw [trim, trimStart_eq_self h.1, trimEnd, trimStart_eq_self hreverse, List.reverse_reverse]

theorem bare_trim (cs : List Char) : Bare (trim cs) := by
  constructor
  · -- what is cut off behind does not change the first character that is left
    intro c hc
    obtain ⟨back, hback⟩ : trim cs <+: trimStart cs := by
      rw [← List.reverse_suffix, trim, trimEnd, List.reverse_reverse]
      exact List.dropWhile_suffix isBlank
    have hhead : c ∈ (trimStart cs).head? := by
      rw [← hback, List.head?_append, Option.mem_def.mp hc]
      rfl
    exact not_isBlank_of_mem_head?_trimStart hhead
  · intro c hc
    rw [trim, trimEnd, List.getLast?_reverse] at hc
    exact not_isBlank_of_mem_head?_trimStart hc

theorem bare_of_not_isBlank (h : ∀ c ∈ cs, isBlank c = false) : Bare cs :=
  ⟨fun c hc => h c (List.mem_of_mem_head? hc), fun c hc => h c (List.mem_of_mem_getLast? hc)⟩

/-- There is nothing to trim from a text without blanks. -/
theorem trim_of_not_isBlank (h : ∀ c ∈ cs, isBlank c = false) : trim cs = cs :=
  trim_of_bare (bare_of_not_isBlank h)

/-- Upper case keeps the ends of a text free of blanks. -/
theorem Bare.upper (h : Bare cs) : Bare (upper cs) := by
  constructor
  · cases cs with
    | nil =>
      intro d hd
      cases hd
    | cons c cs =>
      intro d hd
      rw [Text.upper, List.flatMap_cons, List.head?_append_of_ne_nil _ (upperChar_ne_nil c)] at hd
      rw [isBlank_of_mem_upperChar (List.mem_of_mem_head? hd), h.1 c rfl]
  · rcases List.eq_nil_or_concat cs with rfl | ⟨front, c, rfl⟩
    · intro d hd
      cases hd
    · intro d hd
      rw [List.concat_eq_append] at hd h
      rw [Text.upper, List.flatMap_append, List.flatMap_singleton,
        List.getLast?_append_of_ne_nil _ (upperChar_ne_nil c)] at hd
      rw [isBlank_of_mem_upperChar (List.mem_of_mem_getLast? hd), h.2 c List.getLast?_concat]

/-! ## Words -/

theorem words_of_blank (h : ∀ c ∈ pad, isBlank c = true) : words pad = [] := by
  have hnil : trimStart pad = [] := List.dropWhile_eq_nil_iff.mpr h
  rw [words]
  split
  · rfl
  · next heq => exact absurd (hnil.symm.trans heq) (List.cons_ne_nil _ _).symm

theorem words_blank_append (h : ∀ c ∈ pad, isBlank c = true) :
    words (pad ++ rest) = words rest := by
  rw [words, trimStart_append_of_blank h, ← words]

/-- A word at the beginning of a line is its first one, if a blank follows it or nothing. -/
theorem words_append (hne : word ≠ []) (h : ∀ c ∈ word, isBlank c = false)
    (hrest : ∀ c ∈ rest.head?, isBlank c = true) : words (word ++ rest) = word :: words rest := by
  obtain ⟨c, cs, rfl⟩ := List.exists_cons_of_ne_nil hne
  have hletters : ∀ d ∈ cs, (!isBlank d) = true := fun d hd => by
    rw [h d (List.mem_cons_of_mem c hd)]
    rfl
  have hstop : rest.takeWhile (!isBlank ·) = [] ∧ rest.dropWhile (!isBlank ·) = rest := by
    cases rest with
    | nil => exact ⟨rfl, rfl⟩
    | cons d rest => simp [hrest d rfl]
  have hstart : trimStart (c :: (cs ++ rest)) = c :: (cs ++ rest) :=
    trimStart_of_not_isBlank (h c List.mem_cons_self)
  rw [List.cons_append, words, hstart]
  simp only [List.takeWhile_append_of_pos hletters, List.dropWhile_append_of_pos hletters, hstop,
    List.append_nil]

end TickChart.Text
