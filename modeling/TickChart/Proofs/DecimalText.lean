import TickChart.Number.DecimalReader
import TickChart.Proofs.Digits

/-!
# Decimals, written and read

A decimal is written with all its fraction digits, so that it is read back with the same scale. Only
the sign of a zero is lost: what is read as a zero is positive.

* `placed`: the digits before the point and those behind it. `placePoint_eq`: they are what is
  written.
* `takeDigits?_whole`, `takeDigits?_part`: the two halves of the reader.
* `readPlain?_chars`, `read?_chars`: every decimal that is not a negative zero.
-/

namespace TickChart.Decimal

open TickChart.Text

/-- The sign is a minus only below zero. -/
def ZeroUnsigned (d : Decimal) : Prop := d.magnitude = 0 → d.negative = false

instance (d : Decimal) : Decidable d.ZeroUnsigned := by unfold ZeroUnsigned; infer_instance

variable {ds : List Nat} {m n scale : Nat} {seen : Bool} {rest : List Char} {d : Decimal}

/-! ## The point -/

/-- The digits of `n` behind as many zeros as leave one digit before the last `scale` of them. -/
def placed (n scale : Nat) : List Nat := paddedOf (scale + 1) n

theorem scale_lt_length_placed (n scale : Nat) : scale < (placed n scale).length := by
  rw [placed, paddedOf, List.length_append, List.length_replicate]
  omega

/-- The digits before the point. -/
def wholeOf (n scale : Nat) : List Nat := (placed n scale).take ((placed n scale).length - scale)

/-- The digits behind the point. -/
def partOf (n scale : Nat) : List Nat := (placed n scale).drop ((placed n scale).length - scale)

theorem wholeOf_append_partOf (n scale : Nat) :
    wholeOf n scale ++ partOf n scale = placed n scale :=
  List.take_append_drop _ _

theorem length_partOf (n scale : Nat) : (partOf n scale).length = scale := by
  have hlt := scale_lt_length_placed n scale
  rw [partOf, List.length_drop]
  omega

theorem partOf_eq_nil (h : scale = 0) : partOf n scale = [] :=
  List.eq_nil_of_length_eq_zero (by rw [length_partOf, h])

theorem wholeOf_ne_nil (n scale : Nat) : wholeOf n scale ≠ [] := by
  have hlt := scale_lt_length_placed n scale
  refine List.ne_nil_of_length_pos ?_
  rw [wholeOf, List.length_take]
  omega

theorem lt_ten_of_mem_wholeOf : ∀ d ∈ wholeOf n scale, d < 10 :=
  fun d hd => lt_ten_of_mem_paddedOf d (List.mem_of_mem_take hd)

theorem lt_ten_of_mem_partOf : ∀ d ∈ partOf n scale, d < 10 :=
  fun d hd => lt_ten_of_mem_paddedOf d (List.mem_of_mem_drop hd)

/-- Both halves together are the number. -/
theorem natOfDigits_partOf (n scale : Nat) :
    natOfDigits (natOfDigits 0 (wholeOf n scale)) (partOf n scale) = n := by
  rw [← natOfDigits_append, wholeOf_append_partOf, placed, natOfDigits_paddedOf]

theorem placePoint_eq (n scale : Nat) :
    placePoint n scale = written (wholeOf n scale) ++
      if scale = 0 then [] else '.' :: written (partOf n scale) := by
  have hpadded : List.replicate (scale + 1 - (digits n).length) '0' ++ digits n =
      written (placed n scale) := paddedDigits_eq (scale + 1) n
  simp only [placePoint, hpadded]
  by_cases hscale : scale = 0
  · have hpart : partOf n scale = [] := partOf_eq_nil hscale
    have hlength : 1 ≤ (digitsOf n).length := List.length_pos_iff.mpr (digitsOf_ne_nil n)
    rw [if_pos hscale, if_pos hscale, List.append_nil, ← List.append_nil (wholeOf n scale), ← hpart,
      wholeOf_append_partOf, placed, paddedOf, hscale, Nat.sub_eq_zero_of_le hlength, digits_eq]
    rfl
  · rw [if_neg hscale, if_neg hscale, length_written]
    simp only [written, wholeOf, partOf, List.map_take, List.map_drop]

/-! ## Reading -/

/-- One digit before the point. -/
theorem takeDigits?_digit {n : Nat} (hn : n < 10) (hlt : 10 * m + n < coeffLimit)
    (cs : List Char) :
    takeDigits? seen false m 0 (digitChar n :: cs) = takeDigits? true false (10 * m + n) 0 cs := by
  simp only [takeDigits?, digit?_digitChar hn, if_neg (Nat.not_le.mpr hlt)]
  rfl

/-- Digits before the point are taken up one after the other. -/
theorem takeDigits?_whole (hds : ∀ d ∈ ds, d < 10) (hne : ds ≠ [])
    (hlt : natOfDigits m ds < coeffLimit) :
    takeDigits? seen false m 0 (written ds ++ rest) =
      takeDigits? true false (natOfDigits m ds) 0 rest := by
  induction ds generalizing m seen with
  | nil => exact absurd rfl hne
  | cons d ds ih =>
    rw [List.forall_mem_cons] at hds
    rw [natOfDigits_cons] at hlt ⊢
    have hstep : 10 * m + d < coeffLimit := Nat.lt_of_le_of_lt (le_natOfDigits _ ds) hlt
    rw [written_cons, List.cons_append, takeDigits?_digit hds.1 hstep]
    cases ds with
    | nil => rfl
    | cons d' ds => exact ih hds.2 (List.cons_ne_nil d' ds) hlt

/-- So are those behind it; the 28th is the last one, and nothing follows it. -/
theorem takeDigits?_part (hds : ∀ d ∈ ds, d < 10) (hlt : natOfDigits m ds < coeffLimit)
    (hle : scale + ds.length ≤ 28) :
    takeDigits? true true m scale (written ds) =
      some (natOfDigits m ds, scale + ds.length) := by
  induction ds generalizing m scale with
  | nil => rfl
  | cons d ds ih =>
    rw [List.forall_mem_cons] at hds
    rw [natOfDigits_cons] at hlt ⊢
    rw [List.length_cons] at hle ⊢
    have hstep : 10 * m + d < coeffLimit := Nat.lt_of_le_of_lt (le_natOfDigits _ ds) hlt
    have hrest : takeDigits? true true (10 * m + d) (scale + 1) (written ds) =
        some (natOfDigits (10 * m + d) ds, scale + 1 + ds.length) := ih hds.2 hlt (by omega)
    simp only [written_cons, takeDigits?, digit?_digitChar hds.1, if_neg (Nat.not_le.mpr hstep),
      ↓reduceIte]
    split
    · next hlast =>
      obtain rfl : ds = [] := List.eq_nil_of_length_eq_zero (by omega)
      rfl
    · rw [hrest]
      congr 2
      omega

/-- The reader takes all digits of what was written. -/
theorem takeDigits?_placePoint (hlt : n < coeffLimit) (hle : scale ≤ 28) :
    takeDigits? false false 0 0 (placePoint n scale) = some (n, scale) := by
  have hvalue := natOfDigits_partOf n scale
  have hwhole : natOfDigits 0 (wholeOf n scale) < coeffLimit :=
    Nat.lt_of_le_of_lt (le_natOfDigits _ (partOf n scale)) (by rwa [hvalue])
  rw [placePoint_eq, takeDigits?_whole lt_ten_of_mem_wholeOf (wholeOf_ne_nil n scale) hwhole]
  by_cases hscale : scale = 0
  · have hpart : partOf n scale = [] := partOf_eq_nil hscale
    rw [hpart, natOfDigits_nil] at hvalue
    rw [if_pos hscale, hvalue, hscale]
    rfl
  · have hread : takeDigits? true true (natOfDigits 0 (wholeOf n scale)) 0
        (written (partOf n scale)) = some (_, 0 + (partOf n scale).length) :=
      takeDigits?_part lt_ten_of_mem_partOf (by rwa [hvalue]) (by rwa [length_partOf, Nat.zero_add])
    rw [hvalue, length_partOf, Nat.zero_add] at hread
    rw [if_neg hscale, ← hread]
    rfl

/-- Digits do not begin with a sign. -/
theorem splitSign_written (hds : ∀ d ∈ ds, d < 10) (hne : ds ≠ []) :
    splitSign (written ds ++ rest) = (false, written ds ++ rest) := by
  unfold splitSign
  split
  · next heq => exact absurd heq (written_ne_cons hds hne (by decide) _)
  · next heq => exact absurd heq (written_ne_cons hds hne (by decide) _)
  · rfl

theorem splitSign_placePoint (n scale : Nat) :
    splitSign (placePoint n scale) = (false, placePoint n scale) := by
  rw [placePoint_eq]
  exact splitSign_written lt_ten_of_mem_wholeOf (wholeOf_ne_nil n scale)

/-- A decimal that is no negative zero is read back in plain notation. -/
theorem readPlain?_chars (h : d.ZeroUnsigned) : readPlain? d.chars = some d := by
  have hdigits := takeDigits?_placePoint d.magnitude_lt d.scale_le
  have hscale : d.scale % 29 = d.scale := Nat.mod_eq_of_lt (Nat.lt_succ_of_le d.scale_le)
  have hsign : (d.negative && decide (d.magnitude ≠ 0)) = d.negative := by
    by_cases hzero : d.magnitude = 0
    · rw [h hzero, Bool.false_and]
    · rw [decide_eq_true hzero, Bool.and_true]
  have hsplit : splitSign d.chars = (d.negative, placePoint d.magnitude d.scale) := by
    rw [chars]
    cases d.negative with
    | true => rfl
    | false => exact splitSign_placePoint _ _
  simp only [readPlain?, hsplit, hdigits, hscale, Option.bind_eq_bind, Option.bind_some, hsign,
    ofSigned?_parts]

/-- **A decimal is read back from its text**, with its scale. -/
theorem read?_chars (h : d.ZeroUnsigned) : read? d.chars = some d := by
  rw [read?, readPlain?_chars h]
  rfl

end TickChart.Decimal
