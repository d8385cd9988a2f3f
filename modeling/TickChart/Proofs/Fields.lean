import Mathlib.Algebra.Order.Field.Basic
import Mathlib.Algebra.Order.Ring.Rat
import Mathlib.Tactic.Ring
import TickChart.Proofs.InstantText

/-!
# Fields of instants

The texts of the fields that the notations of an instant are made of, and what each of them stands
for. The readers of fields read these texts and leave the rest.

* `of_takeDigits`, `exists_dropWhile_isDigit`: digits that are taken, and digits that are dropped.
* `Digits`, `Fraction`, `Zone`: the fields of a strict notation.
* `ShortField`, `Signed`, `YearField`: those of a loose one, with blanks before them.
* `of_number?`, `of_fraction?`, `of_offset?`, `of_short?`, `of_year?`: what is read is such a text.
* `Digits.read` and its likes: such a text is read, in front of what cannot be a part of it.
-/

namespace TickChart.Time

open Text

variable {cs rest text zone : List Char} {ds : List Nat} {least most n : Nat} {y offset : Int}
  {q : ℚ}

/-! ## Digits -/

theorem eq_digitChar_of_digit? {c : Char} {d : Nat} (h : digit? c = some d) : c = digitChar d := by
  have hd := digit?_lt h
  simp only [digit?] at h
  split at h
  · next hc =>
    have hlow : 48 ≤ c.toNat := hc.1
    have hzero : '0'.toNat = 48 := rfl
    have hcode : c.toNat = 48 + d := by
      cases h
      omega
    have hall : ∀ d < 10, Char.ofNat (48 + d) = digitChar d := by decide
    rw [← Char.ofNat_toNat c, hcode, hall d hd]
  · cases h

theorem of_takeDigits (h : takeDigits most cs = (ds, rest)) :
    (∀ d ∈ ds, d < 10) ∧ ds.length ≤ most ∧ cs = written ds ++ rest := by
  induction most, cs using takeDigits.induct generalizing ds rest with
  | case1 cs => cases h; exact ⟨nofun, Nat.le_refl 0, rfl⟩
  | case2 most hmost =>
    rw [takeDigits] at h
    · cases h
      exact ⟨nofun, Nat.zero_le _, rfl⟩
    · exact hmost
  | case3 most c cs d hd ds rest hrec ih =>
    simp only [takeDigits, hd, hrec, Prod.mk.injEq] at h
    obtain ⟨rfl, rfl⟩ := h
    obtain ⟨hlt, hle, hcs⟩ := ih hrec
    refine ⟨List.forall_mem_cons.mpr ⟨digit?_lt hd, hlt⟩, Nat.succ_le_succ hle, ?_⟩
    rw [written_cons, List.cons_append, ← hcs, eq_digitChar_of_digit? hd]
  | case4 most c cs hnone =>
    simp only [takeDigits, hnone, Prod.mk.injEq] at h
    obtain ⟨rfl, rfl⟩ := h
    exact ⟨nofun, Nat.zero_le _, rfl⟩

/-- What digits are cut off of are digits as well. -/
theorem exists_dropWhile_isDigit (cs : List Char) :
    ∃ ds, (∀ d ∈ ds, d < 10) ∧ cs = written ds ++ cs.dropWhile isDigit := by
  induction cs with
  | nil => exact ⟨[], nofun, rfl⟩
  | cons c cs ih =>
    cases hc : digit? c with
    | none => exact ⟨[], nofun, (dropWhile_isDigit (noDigit_cons hc)).symm⟩
    | some d =>
      obtain ⟨ds, hds, hcs⟩ := ih
      have hdigit : isDigit c = true := by rw [isDigit, hc]; rfl
      refine ⟨d :: ds, List.forall_mem_cons.mpr ⟨digit?_lt hc, hds⟩, ?_⟩
      rw [List.dropWhile_cons_of_pos hdigit, written_cons, List.cons_append, ← hcs,
        eq_digitChar_of_digit? hc]

theorem dropWhile_isDigit_append (hds : ∀ d ∈ ds, d < 10) (hrest : NoDigit rest) :
    (written ds ++ rest).dropWhile isDigit = rest := by
  induction ds with
  | nil => exact dropWhile_isDigit hrest
  | cons d ds ih =>
    rw [List.forall_mem_cons] at hds
    rw [written_cons, List.cons_append, List.dropWhile_cons_of_pos (isDigit_digitChar hds.1),
      ih hds.2]

theorem natOfDigits_lt (hds : ∀ d ∈ ds, d < 10) (n : Nat) :
    natOfDigits n ds < (n + 1) * tenTo ds.length := by
  induction ds generalizing n with
  | nil => simp
  | cons d ds ih =>
    rw [List.forall_mem_cons] at hds
    calc natOfDigits (10 * n + d) ds < (10 * n + d + 1) * tenTo ds.length := ih hds.2 _
      _ ≤ ((n + 1) * 10) * tenTo ds.length := Nat.mul_le_mul_right _ (by omega)
      _ = (n + 1) * tenTo (ds.length + 1) := by rw [tenTo_succ]; ring

/-! ## Fields -/

/-- The text is a number of `least` to `most` digits. -/
def Digits (least most : Nat) (text : List Char) (n : Nat) : Prop :=
  ∃ ds, (∀ d ∈ ds, d < 10) ∧ least ≤ ds.length ∧ ds.length ≤ most ∧ text = written ds ∧
    natOfDigits 0 ds = n

theorem of_number? (h : number? least most cs = some (n, rest)) :
    ∃ text, Digits least most text n ∧ cs = text ++ rest := by
  rw [number?] at h
  generalize htake : takeDigits most cs = taken at h
  obtain ⟨ds, rest'⟩ := taken
  obtain ⟨hlt, hle, hcs⟩ := of_takeDigits htake
  simp only at h
  split at h
  · cases h
  · next hleast =>
    cases h
    exact ⟨written ds, ⟨ds, hlt, by omega, hle, rfl, rfl⟩, hcs⟩

theorem Digits.read (h : Digits least most text n) (hrest : NoDigit rest) :
    number? least most (text ++ rest) = some (n, rest) := by
  obtain ⟨ds, hds, hleast, hle, rfl, rfl⟩ := h
  exact number?_append hds hleast hle (.inr hrest)

/-- A field of one width ends by itself. -/
theorem Digits.read_full (h : Digits most most text n) (rest : List Char) :
    number? most most (text ++ rest) = some (n, rest) := by
  obtain ⟨ds, hds, hleast, hle, rfl, rfl⟩ := h
  exact number?_append hds hleast hle (.inl (by omega))

theorem Digits.trimStart_eq (h : Digits least most text n) (hleast : 0 < least) :
    trimStart (text ++ rest) = text ++ rest := by
  obtain ⟨ds, hds, hle, -, rfl, -⟩ := h
  exact trimStart_written hds (List.ne_nil_of_length_pos (by omega))

/-- The text of a fraction of a second: nothing, or a point and digits. -/
inductive Fraction : List Char → ℚ → Prop where
  | none : Fraction [] 0
  | point {ds : List Nat} (hds : ∀ d ∈ ds, d < 10) (hne : ds ≠ []) :
    Fraction ('.' :: written ds) (natOfDigits 0 ds / tenTo ds.length)

theorem Fraction.bounds (h : Fraction text q) : 0 ≤ q ∧ q < 1 := by
  cases h with
  | none => exact ⟨le_refl 0, zero_lt_one⟩
  | @point ds hds hne =>
    have hlt := natOfDigits_lt hds 0
    have hpos : (0 : ℚ) < tenTo ds.length := by exact_mod_cast tenTo_pos _
    rw [Nat.zero_add, Nat.one_mul] at hlt
    exact ⟨div_nonneg (Nat.cast_nonneg _) hpos.le, (div_lt_one hpos).mpr (by exact_mod_cast hlt)⟩

theorem of_fraction? (h : fraction? cs = some (n, rest)) :
    ∃ text q, Fraction text q ∧ cs = text ++ rest := by
  unfold fraction? at h
  split at h
  · next more =>
    generalize htake : takeDigits 9 more = taken at h
    obtain ⟨ds, rest'⟩ := taken
    obtain ⟨hlt, -, hmore⟩ := of_takeDigits htake
    simp only [List.isEmpty_iff] at h
    split at h
    · cases h
    · next hne =>
      cases h
      obtain ⟨dropped, hdropped, hrest⟩ := exists_dropWhile_isDigit rest'
      have hall : ∀ d ∈ ds ++ dropped, d < 10 := by
        intro d hd
        exact (List.mem_append.mp hd).elim (hlt d) (hdropped d)
      refine ⟨_, _, .point hall (List.append_ne_nil_of_left_ne_nil hne _), ?_⟩
      rw [hmore, written_append, List.cons_append, List.append_assoc, ← hrest]
  · cases h
    exact ⟨[], 0, .none, rfl⟩

theorem Fraction.read (h : Fraction text q) (hrest : NoDigit rest)
    (hpoint : ∀ more, rest ≠ '.' :: more) :
    ∃ nanos, fraction? (text ++ rest) = some (nanos, rest) := by
  cases h with
  | none =>
    refine ⟨0, ?_⟩
    unfold fraction?
    split
    · next more heq => exact absurd heq (hpoint more)
    · rfl
  | @point ds hds hne =>
    have hfirst : ∀ d ∈ ds.take 9, d < 10 := fun d hd => hds d (List.mem_of_mem_take hd)
    have hlast : ∀ d ∈ ds.drop 9, d < 10 := fun d hd => hds d (List.mem_of_mem_drop hd)
    -- Nine digits are read, or all of them where there are fewer; the others are dropped.
    have hfull : (ds.take 9).length = 9 ∨ NoDigit (written (ds.drop 9) ++ rest) := by
      by_cases hlong : 9 ≤ ds.length
      · exact .inl (by rw [List.length_take]; omega)
      · rw [List.drop_of_length_le (by omega)]
        exact .inr hrest
    have htake : takeDigits 9 (written ds ++ rest) = (ds.take 9, written (ds.drop 9) ++ rest) := by
      have hsplit : written ds = written (ds.take 9) ++ written (ds.drop 9) := by
        rw [← written_append, List.take_append_drop]
      rw [hsplit, List.append_assoc]
      exact takeDigits_append hfirst (by simp) hfull
    have hsome : (ds.take 9).isEmpty = false := by
      rw [List.isEmpty_eq_false_iff, Ne, List.take_eq_nil_iff]
      simp [hne]
    refine ⟨natOfDigits 0 (ds.take 9) * tenTo (9 - (ds.take 9).length), ?_⟩
    simp only [fraction?, List.cons_append, htake, hsome, dropWhile_isDigit_append hlast hrest]
    rfl

theorem Fraction.noDigit (h : Fraction text q) : NoDigit text := by
  cases h with
  | none => exact noDigit_nil
  | point => exact noDigit_cons (by decide)

/-- The text of an offset from UTC, and its seconds. -/
inductive Zone : List Char → Int → Prop where
  | utc {c : Char} (hc : c = 'Z' ∨ c = 'z') : Zone [c] 0
  | ahead {hours minutes : List Char} {h m : Nat} (hhours : Digits 2 2 hours h)
    (hminutes : Digits 2 2 minutes m) (hlt : m < 60) :
    Zone ('+' :: (hours ++ ':' :: minutes)) (h * 3600 + m * 60)
  | behind {c : Char} {hours minutes : List Char} {h m : Nat} (hc : c = '-' ∨ c = '\u2212')
    (hhours : Digits 2 2 hours h) (hminutes : Digits 2 2 minutes m) (hlt : m < 60) :
    Zone (c :: (hours ++ ':' :: minutes)) (-(h * 3600 + m * 60))

theorem of_skip? {c : Char} (h : skip? c cs = some rest) : cs = c :: rest := by
  unfold skip? at h
  split at h
  · split at h
    · next heq =>
      cases h
      rw [heq]
    · cases h
  · cases h

theorem of_offset? (h : offset? (skip? ':') cs = some (offset, [])) : Zone cs offset := by
  unfold offset? at h
  split at h
  · cases h
  · next c rest =>
    split at h
    · next hc =>
      cases h
      exact .utc hc
    split at h
    · -- A sign, with the hours and the minutes behind it.
      next _ hsign =>
      simp only [bind, Option.bind_eq_some_iff, Prod.exists] at h
      obtain ⟨hours, more, hhours, after, hcolon, minutes, nothing, hminutes, h⟩ := h
      split at h
      · next hlt =>
        simp only [Option.some.injEq, Prod.mk.injEq] at h
        obtain ⟨hoffset, rfl⟩ := h
        obtain ⟨hs, hhs, rfl⟩ := of_number? hhours
        obtain ⟨ms, hms, rfl⟩ := of_number? hminutes
        obtain rfl := of_skip? hcolon
        rw [List.append_nil]
        by_cases hplus : c = '+'
        · rw [if_pos hplus] at hoffset
          subst hplus hoffset
          exact .ahead hhs hms hlt
        · rw [if_neg hplus] at hoffset
          subst hoffset
          exact .behind (hsign.resolve_left hplus) hhs hms hlt
      · cases h
    · cases h

theorem Zone.read (h : Zone zone offset) : offset? (skip? ':') zone = some (offset, []) := by
  cases h with
  | utc hc => rw [offset?, if_pos hc]
  | ahead hhours hminutes hlt =>
    have hread := hminutes.read_full []
    rw [List.append_nil] at hread
    simp [offset?, hhours.read_full, hread, skip?_cons, hlt]
  | behind hc hhours hminutes hlt =>
    have hread := hminutes.read_full []
    rw [List.append_nil] at hread
    rcases hc with rfl | rfl <;> simp [offset?, hhours.read_full, hread, skip?_cons, hlt]

/-- An offset does not begin as a fraction goes on. -/
theorem Zone.ends (h : Zone zone offset) : NoDigit zone ∧ ∀ more, zone ≠ '.' :: more := by
  cases h with
  | utc hc => rcases hc with rfl | rfl <;> exact ⟨noDigit_cons (by decide), by simp⟩
  | ahead => exact ⟨noDigit_cons (by decide), by simp⟩
  | behind hc => rcases hc with rfl | rfl <;> exact ⟨noDigit_cons (by decide), by simp⟩

/-! ## Loose fields -/

/-- The text of a number of one or two digits, with blanks before it or none. -/
def ShortField (text : List Char) (n : Nat) : Prop :=
  ∃ pad digits, (∀ c ∈ pad, isBlank c = true) ∧ Digits 1 2 digits n ∧ text = pad ++ digits

/-- The text of an integer behind its sign. -/
inductive Signed : List Char → Int → Prop where
  | plus {digits : List Char} {n : Nat} (h : Digits 1 digits.length digits n) :
    Signed ('+' :: digits) n
  | minus {digits : List Char} {n : Nat} (h : Digits 1 digits.length digits n) :
    Signed ('-' :: digits) (-n)

/-- The text of a year, with blanks before it or none: up to four digits, or a sign and digits. -/
def YearField (text : List Char) (y : Int) : Prop :=
  ∃ pad digits, (∀ c ∈ pad, isBlank c = true) ∧
    (Signed digits y ∨ ∃ n : Nat, Digits 1 4 digits n ∧ y = n) ∧ text = pad ++ digits

/-- Blanks at the start of a text are its longest start of blanks. -/
theorem exists_trimStart (cs : List Char) :
    ∃ pad, (∀ c ∈ pad, isBlank c = true) ∧ cs = pad ++ trimStart cs :=
  ⟨cs.takeWhile isBlank, List.all_eq_true.mp List.all_takeWhile,
    List.takeWhile_append_dropWhile.symm⟩

theorem of_short? (h : short? cs = some (n, rest)) :
    ∃ text, ShortField text n ∧ cs = text ++ rest := by
  obtain ⟨digits, hdigits, hcs⟩ := of_number? h
  obtain ⟨pad, hpad, hsplit⟩ := exists_trimStart cs
  exact ⟨pad ++ digits, ⟨pad, digits, hpad, hdigits, rfl⟩, by rw [hsplit, hcs, List.append_assoc]⟩

theorem ShortField.read (h : ShortField text n) (hrest : NoDigit rest) :
    short? (text ++ rest) = some (n, rest) := by
  obtain ⟨pad, digits, hpad, hdigits, rfl⟩ := h
  rw [short?, List.append_assoc, trimStart_append_of_blank hpad,
    hdigits.trimStart_eq (by decide), hdigits.read hrest]

theorem Digits.length_le (h : Digits least most text n) (rest : List Char) :
    Digits least (text ++ rest).length text n := by
  obtain ⟨ds, hds, hleast, -, rfl, hn⟩ := h
  exact ⟨ds, hds, hleast, by simp, rfl, hn⟩

theorem Digits.to_length (h : Digits least most text n) : Digits least text.length text n := by
  have hlength := h.length_le []
  rwa [List.append_nil] at hlength

theorem of_year? (h : year? cs = some (y, rest)) :
    ∃ text, YearField text y ∧ cs = text ++ rest := by
  obtain ⟨pad, hpad, hsplit⟩ := exists_trimStart cs
  suffices hfield : ∃ digits, (Signed digits y ∨ ∃ n : Nat, Digits 1 4 digits n ∧ y = n) ∧
      trimStart cs = digits ++ rest by
    obtain ⟨digits, hdigits, hcs⟩ := hfield
    exact ⟨pad ++ digits, ⟨pad, digits, hpad, hdigits, rfl⟩, by rw [hsplit, hcs, List.append_assoc]⟩
  unfold year? at h
  split at h
  · next more heq =>
    obtain ⟨⟨n, rest'⟩, hread, hpair⟩ := Option.map_eq_some_iff.mp h
    obtain ⟨digits, hdigits, hmore⟩ := of_number? hread
    cases hpair
    exact ⟨'-' :: digits, .inl (.minus hdigits.to_length), by rw [heq, hmore, List.cons_append]⟩
  · next more heq =>
    obtain ⟨⟨n, rest'⟩, hread, hpair⟩ := Option.map_eq_some_iff.mp h
    obtain ⟨digits, hdigits, hmore⟩ := of_number? hread
    cases hpair
    exact ⟨'+' :: digits, .inl (.plus hdigits.to_length), by rw [heq, hmore, List.cons_append]⟩
  · obtain ⟨⟨n, rest'⟩, hread, hpair⟩ := Option.map_eq_some_iff.mp h
    obtain ⟨digits, hdigits, hmore⟩ := of_number? hread
    cases hpair
    exact ⟨digits, .inr ⟨n, hdigits, rfl⟩, hmore⟩

/-- Digits do not begin with a sign. -/
theorem Digits.ne_cons {c : Char} (h : Digits least most text n) (hleast : 0 < least)
    (hc : digit? c = none) (more : List Char) : text ++ rest ≠ c :: more := by
  obtain ⟨ds, hds, hle, -, rfl, -⟩ := h
  exact written_ne_cons hds (List.ne_nil_of_length_pos (by omega)) hc more

theorem YearField.read (h : YearField text y) (hrest : NoDigit rest) :
    year? (text ++ rest) = some (y, rest) := by
  obtain ⟨pad, digits, hpad, hfield, rfl⟩ := h
  rw [year?, List.append_assoc, trimStart_append_of_blank hpad]
  rcases hfield with hsigned | ⟨n, hdigits, rfl⟩
  · cases hsigned with
    | plus hdigits =>
      rw [List.cons_append, trimStart_of_not_isBlank (by decide)]
      simp only [(hdigits.length_le _).read hrest, Option.map_some]
    | minus hdigits =>
      rw [List.cons_append, trimStart_of_not_isBlank (by decide)]
      simp only [(hdigits.length_le _).read hrest, Option.map_some]
  · rw [hdigits.trimStart_eq (by decide)]
    split
    · next heq => exact absurd heq (hdigits.ne_cons (by decide) (by decide) _)
    · next heq => exact absurd heq (hdigits.ne_cons (by decide) (by decide) _)
    · rw [hdigits.read hrest, Option.map_some]

end TickChart.Time
