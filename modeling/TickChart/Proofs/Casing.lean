import Mathlib.Data.List.Range
import TickChart.Text.Blank
import TickChart.Text.Upper

/-!
# Case

A text in upper case stays as it is when it is put into upper case again. White space, the dash and
the slash stay as they are, and nothing else becomes one of them.

* `cased`, `capitals`: the code points that change in upper case, and what they become.
* `bits`: a list of code points as one number, by which two long lists are seen to be apart.
* `mem_upperChar`: a character of an upper-case form is a capital, or the character itself.
* `upper_eq_self_iff`, `upper_upper`: the texts in upper case, and that it is reached at once.
* `eq_of_still`, `isBlank_of_mem_upperChar`: what stays as it is.
* `eq_or_of_toLower`, `upper_congr`, `not_isBlank_congr`: texts that differ in the case of their
  letters `A` to `Z` are the same in upper case, and have the same blanks.
-/

namespace TickChart.Text

variable {c d : Char} {n : Nat} {a b cs : List Char}

/-! ## Code points -/

/-- The number whose bits are the code points of a list. -/
def bits (points : List Nat) : Nat := points.foldr (fun n m => 1 <<< n ||| m) 0

theorem testBit_bits {points : List Nat} (h : n ∈ points) : (bits points).testBit n = true := by
  induction points with
  | nil => cases h
  | cons m points ih =>
    have hbits : bits (m :: points) = 1 <<< m ||| bits points := rfl
    rw [hbits, Nat.testBit_or, Bool.or_eq_true]
    rcases List.mem_cons.mp h with rfl | h
    · left
      simp
    · exact .inr (ih h)

/-- Lists whose numbers have no bit in common have no code point in common. -/
theorem not_mem_of_bits {points others : List Nat} (h : bits points &&& bits others = 0)
    (hn : n ∈ points) : n ∉ others := by
  intro hother
  have hbit := congrArg (Nat.testBit · n) h
  simp only [Nat.testBit_and, testBit_bits hn, testBit_bits hother, Nat.zero_testBit] at hbit
  exact absurd hbit (by decide)

/-- The code points of a run. -/
def CaseRun.points (r : CaseRun) : List Nat :=
  List.range' r.first ((r.last - r.first) / r.step + 1) r.step

theorem CaseRun.mem_points {r : CaseRun} (h : r.covers n = true) : n ∈ r.points := by
  simp only [covers, Bool.and_eq_true, decide_eq_true_eq, beq_iff_eq] at h
  obtain ⟨⟨hfirst, hlast⟩, hstep⟩ := h
  refine List.mem_range'.mpr ⟨(n - r.first) / r.step, ?_, ?_⟩
  · exact Nat.lt_succ_of_le (Nat.div_le_div_right (Nat.sub_le_sub_right hlast _))
  · rw [Nat.mul_div_cancel' (Nat.dvd_of_mod_eq_zero hstep)]
    omega

/-- What the code points of a run become. -/
def CaseRun.image (r : CaseRun) : List Nat :=
  r.points.map fun (n : Nat) => ((n : Int) + r.shift).toNat

/-- The code points that change in upper case. -/
def cased : List Nat := upperRuns.flatMap CaseRun.points ++ upperLong.map Prod.fst

/-- The code points that they become. -/
def capitals : List Nat := upperRuns.flatMap CaseRun.image ++ upperLong.flatMap Prod.snd

/-- The code points of white space. -/
def blanks : List Nat := blankRanges.flatMap fun r => List.range' r.1 (r.2 - r.1 + 1)

/-- White space, the dash and the slash. -/
def still : List Nat := '-'.toNat :: '/'.toNat :: blanks

theorem not_cased_of_capital (h : n ∈ capitals) : n ∉ cased :=
  not_mem_of_bits (by decide +kernel) h

theorem not_mem_of_still (h : n ∈ still) : n ∉ cased ++ capitals :=
  not_mem_of_bits (by decide +kernel) h

theorem toNat_ofNat_of_capital (h : n ∈ capitals) : (Char.ofNat n).toNat = n := by
  have hvalid : ∀ n ∈ capitals, n.isValidChar := by decide +kernel
  rw [Char.ofNat, dif_pos (hvalid n h)]
  rfl

theorem isBlank_iff : isBlank c = true ↔ c.toNat ∈ blanks := by
  simp only [isBlank, blanks, List.any_eq_true, List.mem_flatMap, Bool.and_eq_true,
    decide_eq_true_eq, List.mem_range'_1]
  refine exists_congr fun r => and_congr_right fun hr => ?_
  have hrange : ∀ r ∈ blankRanges, r.1 ≤ r.2 := by decide
  have hle := hrange r hr
  omega

/-! ## Upper case -/

theorem CaseRun.cased_of_covers {r : CaseRun} (hr : r ∈ upperRuns) (h : r.covers n = true) :
    n ∈ cased ∧ ((n : Int) + r.shift).toNat ∈ capitals := by
  have hn := r.mem_points h
  exact ⟨List.mem_append_left _ (List.mem_flatMap.mpr ⟨r, hr, hn⟩),
    List.mem_append_left _ (List.mem_flatMap.mpr ⟨r, hr, List.mem_map_of_mem hn⟩)⟩

/-- The letters `a` to `z` are the first run of the table, and change like any other. -/
theorem toUpper_cases (h : c.toNat < 0x80) :
    c.toUpper = c ∨ c.toNat ∈ cased ∧ ∃ n ∈ capitals, c.toUpper = Char.ofNat n := by
  have hupper : ∀ n < 0x80, (Char.ofNat n).toUpper = Char.ofNat n ∨
      0x61 ≤ n ∧ n ≤ 0x7A ∧ (Char.ofNat n).toUpper = Char.ofNat ((n : Int) + -32).toNat := by
    decide
  have hc := hupper c.toNat h
  rw [Char.ofNat_toNat] at hc
  refine hc.imp_right fun ⟨hfirst, hlast, heq⟩ => ?_
  have hcovers : CaseRun.covers ⟨0x61, 0x7A, 1, -32⟩ c.toNat = true := by
    simp [CaseRun.covers, hfirst, hlast, Nat.mod_one]
  obtain ⟨hcased, hcapital⟩ := CaseRun.cased_of_covers List.mem_cons_self hcovers
  exact ⟨hcased, _, hcapital, heq⟩

/-- A character is its own upper-case form, or its form is one of capitals. -/
theorem upperChar_cases (c : Char) :
    upperChar c = [c] ∨ c.toNat ∈ cased ∧ ∃ form : List Nat, form ≠ [] ∧
      (∀ n ∈ form, n ∈ capitals) ∧ upperChar c = form.map Char.ofNat := by
  rw [upperChar]
  split
  · next hascii =>
    rcases toUpper_cases hascii with heq | ⟨hcased, n, hn, heq⟩
    · exact .inl (by rw [heq])
    · exact .inr ⟨hcased, [n], List.cons_ne_nil _ _, List.forall_mem_singleton.mpr hn,
        congrArg List.singleton heq⟩
  · split
    · next form hform =>
      obtain ⟨front, back, hsplit, -⟩ := List.lookup_eq_some_iff.mp hform
      have hmem : (c.toNat, form) ∈ upperLong := hsplit ▸ List.mem_append_right _ List.mem_cons_self
      have hne : ∀ entry ∈ upperLong, entry.2 ≠ [] := by decide
      exact .inr ⟨List.mem_append_right _ (List.mem_map_of_mem hmem), form, hne _ hmem,
        fun n hn => List.mem_append_right _ (List.mem_flatMap.mpr ⟨_, hmem, hn⟩), rfl⟩
    · split
      · next run hrun =>
        have hcovers : run.covers c.toNat = true := (List.find?_eq_some_iff_append.mp hrun).1
        obtain ⟨hcased, hcapital⟩ :=
          CaseRun.cased_of_covers (List.mem_of_find?_eq_some hrun) hcovers
        exact .inr ⟨hcased, [_], List.cons_ne_nil _ _, List.forall_mem_singleton.mpr hcapital, rfl⟩
      · exact .inl rfl

theorem upperChar_of_not_cased (h : c.toNat ∉ cased) : upperChar c = [c] :=
  (upperChar_cases c).resolve_right fun hc => h hc.1

theorem upperChar_ne_nil (c : Char) : upperChar c ≠ [] := by
  rcases upperChar_cases c with heq | ⟨-, form, hne, -, heq⟩
  · rw [heq]
    exact List.cons_ne_nil _ _
  · rwa [heq, ne_eq, List.map_eq_nil_iff]

/-- A character of an upper-case form is a capital, or the form is the character itself. -/
theorem mem_upperChar (h : d ∈ upperChar c) :
    c.toNat ∈ cased ∧ d.toNat ∈ capitals ∨ upperChar c = [c] ∧ d = c := by
  rcases upperChar_cases c with heq | ⟨hcased, form, -, hcapitals, heq⟩
  · rw [heq, List.mem_singleton] at h
    exact .inr ⟨heq, h⟩
  · rw [heq] at h
    obtain ⟨n, hn, rfl⟩ := List.mem_map.mp h
    have hcapital := hcapitals n hn
    exact .inl ⟨hcased, (toNat_ofNat_of_capital hcapital).symm ▸ hcapital⟩

/-- A capital stays as it is. -/
theorem upperChar_of_mem (h : d ∈ upperChar c) : upperChar d = [d] := by
  rcases mem_upperChar h with ⟨-, hcapital⟩ | ⟨heq, rfl⟩
  · exact upperChar_of_not_cased (not_cased_of_capital hcapital)
  · exact heq

theorem upperChar_of_mem_upper (h : d ∈ upper cs) : upperChar d = [d] := by
  obtain ⟨c, -, hc⟩ := List.mem_flatMap.mp h
  exact upperChar_of_mem hc

/-- A text is in upper case if each of its characters is. -/
theorem upper_eq_self_iff : upper cs = cs ↔ ∀ c ∈ cs, upperChar c = [c] := by
  constructor
  · intro h c hc
    rw [← h] at hc
    exact upperChar_of_mem_upper hc
  · intro h
    rw [upper, List.flatMap_congr h, List.flatMap_singleton']

/-- Upper case is reached at once. -/
theorem upper_upper (cs : List Char) : upper (upper cs) = upper cs :=
  upper_eq_self_iff.mpr fun _ hd => upperChar_of_mem_upper hd

/-- What comes of a character that is still, or becomes one, is that character. -/
theorem eq_of_still (h : d ∈ upperChar c) (hstill : c.toNat ∈ still ∨ d.toNat ∈ still) : d = c := by
  rcases mem_upperChar h with ⟨hcased, hcapital⟩ | ⟨-, heq⟩
  · rcases hstill with hstill | hstill
    · exact absurd (List.mem_append_left _ hcased) (not_mem_of_still hstill)
    · exact absurd (List.mem_append_right _ hcapital) (not_mem_of_still hstill)
  · exact heq

theorem isBlank_of_mem_upperChar (h : d ∈ upperChar c) : isBlank d = isBlank c := by
  have hstill {e : Char} (he : isBlank e = true) : e.toNat ∈ still :=
    List.mem_cons_of_mem _ (List.mem_cons_of_mem _ (isBlank_iff.mp he))
  rw [Bool.eq_iff_iff]
  constructor
  · intro hd
    rwa [← eq_of_still h (.inr (hstill hd))]
  · intro hc
    rwa [eq_of_still h (.inl (hstill hc))]

/-! ## The case of ASCII -/

theorem eq_or_of_toLower (h : c.toLower = d) :
    c = d ∨ ∃ n < 26, c = Char.ofNat (65 + n) ∧ d = Char.ofNat (97 + n) := by
  subst h
  by_cases hupper : 65 ≤ c.toNat ∧ c.toNat ≤ 90
  · right
    obtain ⟨n, hn⟩ := Nat.exists_eq_add_of_le hupper.1
    have hlower : ∀ n < 26, (Char.ofNat (65 + n)).toLower = Char.ofNat (97 + n) := by decide
    have hc : c = Char.ofNat (65 + n) := by rw [← Char.ofNat_toNat c, hn]
    exact ⟨n, by omega, hc, by rw [hc, hlower n (by omega)]⟩
  · left
    have hletter : ¬ (c.val ≥ 'A'.val ∧ c.val ≤ 'Z'.val) := hupper
    delta Char.toLower
    rw [dif_neg hletter]

theorem upperChar_toLower (c : Char) : upperChar c.toLower = upperChar c := by
  rcases eq_or_of_toLower (c := c) rfl with heq | ⟨n, hn, hc, hlower⟩
  · rw [← heq]
  · have hform : ∀ n < 26, upperChar (Char.ofNat (97 + n)) = upperChar (Char.ofNat (65 + n)) := by
      decide
    rw [hlower, hc, hform n hn]

theorem isBlank_toLower (c : Char) : isBlank c.toLower = isBlank c := by
  rcases eq_or_of_toLower (c := c) rfl with heq | ⟨n, hn, hc, hlower⟩
  · rw [← heq]
  · have hletter : ∀ n < 26, isBlank (Char.ofNat (97 + n)) = isBlank (Char.ofNat (65 + n)) := by
      decide
    rw [hlower, hc, hletter n hn]

theorem upper_lowerAscii (cs : List Char) : upper (lowerAscii cs) = upper cs := by
  rw [upper, lowerAscii, List.flatMap_map]
  exact List.flatMap_congr fun c _ => upperChar_toLower c

/-- Texts that differ in the case of ASCII only have one upper case. -/
theorem upper_congr (h : lowerAscii a = lowerAscii b) : upper a = upper b := by
  rw [← upper_lowerAscii, h, upper_lowerAscii]

/-- One of them is free of blanks if the other is. -/
theorem not_isBlank_congr (h : lowerAscii a = lowerAscii b) (hb : ∀ c ∈ b, isBlank c = false) :
    ∀ c ∈ a, isBlank c = false := by
  intro c hc
  have hlower : c.toLower ∈ lowerAscii b := h ▸ List.mem_map_of_mem hc
  obtain ⟨d, hd, heq⟩ := List.mem_map.mp hlower
  rw [← isBlank_toLower, ← heq, isBlank_toLower, hb d hd]

end TickChart.Text
