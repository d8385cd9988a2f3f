import Mathlib.Data.Rat.Cast.Order
import TickChart.Backend.History
import TickChart.Indicator.Overlay
import TickChart.Proofs.Documents
import TickChart.Proofs.InstantText
import TickChart.Proofs.Shortest
import TickChart.Proofs.Words

/-!
# Amounts of integers

A backend sends an amount as a number or as text. An integer in text is read as itself, and so is a
signed integer of 64 bits that is sent as a number. A greater one that JSON still keeps is not: it
goes through its double, and what is read is the shortest notation of that.

* `numeral`: the text of an integer. `exists_ofInt?`: the decimal that it is.
* `readTrimmed?_numeral`: text. `decimal?_signed`, `decimal?_beyond`, `exists_near_double`: numbers.
* `Restated`, `RestatedRow`: a member, and the members of a row, sent in the other way.
* `amounts_of_integers`: all of it. `amounts_of_integers_greatest`: the greatest integer of all.
-/

namespace TickChart

open Json

variable {n : Int}

/-- An integer in decimal notation. -/
def numeral (n : Int) : String := String.ofList (Text.intDigits n)

/-! ## Text -/

theorem Text.not_isBlank_intDigits : ∀ c ∈ Text.intDigits n, Text.isBlank c = false := by
  have hdigits : ∀ c ∈ Text.digits n.natAbs, Text.isBlank c = false := by
    intro c hc
    rw [Text.digits_eq] at hc
    obtain ⟨d, hd, rfl⟩ := List.mem_map.mp hc
    exact Time.isBlank_digitChar d (Text.lt_ten_of_mem_digitsOf d hd)
  unfold Text.intDigits
  split
  · exact List.forall_mem_cons.mpr ⟨by decide, hdigits⟩
  · exact hdigits

namespace Decimal

/-- The decimal that an integer of at most 96 bits is. -/
theorem exists_ofInt? (h : n.natAbs < coeffLimit) :
    ∃ d, ofInt? n = some d ∧ d.toRat = n ∧ d.ZeroUnsigned ∧ d.chars = Text.intDigits n := by
  refine ⟨⟨decide (n < 0), n.natAbs, 0, h, by decide⟩, dif_pos ⟨h, by decide⟩, ?_, ?_, ?_⟩
  · have hcoeff : coeff ⟨decide (n < 0), n.natAbs, 0, h, by decide⟩ = n := by
      simp only [coeff, decide_eq_true_eq]
      split <;> omega
    rw [toRat, hcoeff, tenTo_zero, Rat.mkRat_one]
  · intro hzero
    simp only at hzero
    exact decide_eq_false (by omega)
  · simp only [chars, placePoint, ↓reduceIte, decide_eq_true_eq, Text.intDigits]

/-- An integer in text is read as itself. -/
theorem readTrimmed?_numeral (h : n.natAbs < coeffLimit) :
    readTrimmed? (numeral n) = ofInt? n := by
  obtain ⟨d, hd, -, hzero, hchars⟩ := exists_ofInt? h
  rw [readTrimmed?, numeral, String.toList_ofList,
    Text.trim_of_not_isBlank Text.not_isBlank_intDigits, ← hchars, read?_chars hzero, hd]

end Decimal

/-! ## Numbers -/

namespace Json.Number

theorem decimal?_signed (h : n ≤ greatestSigned) : (int n).decimal? = Decimal.ofInt? n := by
  rw [decimal?, signed?, if_pos h]

/-- An integer beyond the signed ones is read as the shortest notation of its double. -/
theorem decimal?_beyond (h : greatestSigned < n) :
    (int n).decimal? = Decimal.readPlain? (Double.ofInt n).plainChars := by
  rw [decimal?, signed?, if_neg (Int.not_le.mpr h)]
  rfl

/-- The shortest notation of its double is another integer, less than `2 ^ 12` away: the double is
at most `2 ^ 10` away from the integer, and its shortest notation at most `2 ^ 11` from the double.
-/
theorem exists_near_double (h : greatestSigned < n) (h' : n ≤ greatestInt) :
    ∃ other : Int, Decimal.readPlain? (Double.ofInt n).plainChars = Decimal.ofInt? other ∧
      other.natAbs < coeffLimit ∧ other < n + 4096 ∧ n < other + 4096 := by
  rw [greatestSigned] at h
  rw [greatestInt] at h'
  obtain ⟨k, rfl⟩ := Int.eq_ofNat_of_zero_le (show 0 ≤ n by omega)
  obtain ⟨m, e, hsign, hparts, hnear⟩ :=
    Double.magnitude_ofInt (n := k) (k := 11) (by omega) (by omega) (by decide) (by decide)
  have hplace : 2 ^ e ≤ 2 ^ 12 := Nat.pow_le_pow_right (by decide) hnear.place_le
  obtain ⟨other, hread, hlt, hle, hge⟩ := Double.readPlain?_plainChars hsign hparts hnear.le_bits
    hnear.bits_lt hnear.le_place hnear.place_le
  have hle' := hnear.le_double
  have hge' := hnear.double_le
  exact ⟨other, hread, hlt, by omega, by omega⟩

end Json.Number

/-! ## Rows -/

/-- Both members are the same, or both are one signed integer: as a number in the one, as text in
the other. -/
inductive Restated : Option Value → Option Value → Prop where
  | same (v : Option Value) : Restated v v
  | asText (n : Int) (hleast : leastInt ≤ n) (hgreatest : n ≤ greatestSigned) :
    Restated (some (.number (.int n))) (some (.string (numeral n)))

/-- The rows have one time, and the amounts of the one are those of the other restated. -/
structure RestatedRow (row other : Value) : Prop where
  time : row.rowTime? = other.rowTime?
  amounts : ∀ name ∈ candleKeys, Restated (row.get? name) (other.get? name)

variable {a b : Option Value} {f : Timeframe} {row other : Value} {rows others : List Value}

theorem natAbs_lt_coeffLimit (hleast : leastInt ≤ n) (hgreatest : n ≤ greatestInt) :
    n.natAbs < coeffLimit := by
  rw [leastInt] at hleast
  rw [greatestInt] at hgreatest
  have hlimit : coeffLimit = 2 ^ 96 := rfl
  omega

theorem Restated.decimal?_eq (h : Restated a b) :
    a.bind Value.decimal? = b.bind Value.decimal? := by
  cases h with
  | same => rfl
  | asText n hleast hgreatest =>
    have hlimit := natAbs_lt_coeffLimit hleast (Int.le_trans hgreatest (by decide))
    show (Number.int n).decimal? = Decimal.readTrimmed? (numeral n)
    rw [Number.decimal?_signed hgreatest, Decimal.readTrimmed?_numeral hlimit]

theorem RestatedRow.ofRow?_eq (h : RestatedRow row other) :
    Candle.ofRow? f row = Candle.ofRow? f other := by
  have hopen := (h.amounts "open" (by decide)).decimal?_eq
  have hhigh := (h.amounts "high" (by decide)).decimal?_eq
  have hlow := (h.amounts "low" (by decide)).decimal?_eq
  have hclose := (h.amounts "close" (by decide)).decimal?_eq
  have hvolume := (h.amounts "volume" (by decide)).decimal?_eq
  simp only [Candle.ofRow?, h.time, hopen, hhigh, hlow, hclose, hvolume]

theorem Series.ofRows_eq_of_restated (h : List.Forall₂ RestatedRow rows others) :
    ofRows f rows = ofRows f others := by
  have hcandles : rows.filterMap (Candle.ofRow? f) = others.filterMap (Candle.ofRow? f) := by
    induction h with
    | nil => rfl
    | cons hrow _ ih => rw [List.filterMap_cons, List.filterMap_cons, hrow.ofRow?_eq, ih]
  rw [ofRows, ofRows, hcandles]

/-- **Amounts of integers.** For every integer that JSON keeps, as a number and as text: the text is
read as the decimal whose value it is. So is the number, if it is a signed integer of 64 bits; any
other is read as the shortest notation of its double, whose value is less than `2 ^ 12` away. A row
gives the same candle whichever of its amounts are signed integers sent as text instead of as
numbers, and a history of such rows is the same series. -/
theorem amounts_of_integers (f : Timeframe) :
    (∀ n : Int, leastInt ≤ n → n ≤ greatestInt →
      Value.read? (Document.ofInt n).text = some (.number (.int n)) ∧
      Value.read? (Document.ofText (numeral n)).text = some (.string (numeral n)) ∧
      ∃ d : Decimal, d.toRat = n ∧ Value.decimal? (.string (numeral n)) = some d ∧
        (n ≤ greatestSigned → Value.decimal? (.number (.int n)) = some d) ∧
        (greatestSigned < n → ∃ e : Decimal, Value.decimal? (.number (.int n)) = some e ∧
          Decimal.readPlain? (Double.ofInt n).plainChars = some e ∧
          e.toRat < n + 4096 ∧ n < e.toRat + 4096)) ∧
      (∀ row other, RestatedRow row other → Candle.ofRow? f row = Candle.ofRow? f other) ∧
      ∀ rows others, List.Forall₂ RestatedRow rows others →
        Series.ofRows f rows = Series.ofRows f others := by
  refine ⟨fun n hleast hgreatest => ?_, fun row other h => h.ofRow?_eq,
    fun rows others h => Series.ofRows_eq_of_restated h⟩
  obtain ⟨d, hd, hvalue, -, -⟩ := Decimal.exists_ofInt? (natAbs_lt_coeffLimit hleast hgreatest)
  have hnumber : Document.read? (Document.ofInt n).text = some (Document.ofInt n) :=
    Document.read?_text (Literal.proper_ofInt n)
  have htext : Document.read? (Document.ofText (numeral n)).text =
      some (Document.ofText (numeral n)) := Document.read?_text trivial
  refine ⟨?_, ?_, d, hvalue, ?_, ?_, ?_⟩
  · rw [Value.read?, hnumber, Option.bind_some, Document.ofInt, Document.valueWithin?,
      Literal.number?_ofInt hleast hgreatest, Option.map_some]
  · rw [Value.read?, htext]
    rfl
  · rw [Value.decimal?, Decimal.readTrimmed?_numeral (natAbs_lt_coeffLimit hleast hgreatest), hd]
  · intro hsigned
    rw [Value.decimal?, Number.decimal?_signed hsigned, hd]
  · intro hunsigned
    obtain ⟨other, hread, hlimit, hlt, hgt⟩ := Number.exists_near_double hunsigned hgreatest
    obtain ⟨e, he, hother, -, -⟩ := Decimal.exists_ofInt? hlimit
    rw [Value.decimal?, Number.decimal?_beyond hunsigned, hread, he]
    refine ⟨e, rfl, rfl, ?_, ?_⟩
    · rw [hother]
      exact_mod_cast hlt
    · rw [hother]
      exact_mod_cast hgt

/-- A row with all its prices sent in the other way, and a volume in neither. -/
theorem amounts_of_integers_row :
    let row (amount : Int → Value) : Value :=
      .object [("close", amount 2), ("high", amount 3), ("low", amount (-1)), ("open", amount 2),
        ("timestamp", .number (.int 65))]
    let numbers := row fun n => .number (.int n)
    let texts := row fun n => .string (numeral n)
    RestatedRow numbers texts ∧ Candle.ofRow? .m1 numbers = Candle.ofRow? .m1 texts ∧
      (Candle.ofRow? .m1 numbers).isSome := by
  intro row numbers texts
  have hamounts : ∀ name ∈ candleKeys, Restated (numbers.get? name) (texts.get? name) := by
    intro name hname
    simp only [candleKeys, List.mem_cons, List.not_mem_nil, or_false] at hname
    rcases hname with rfl | rfl | rfl | rfl | rfl
    · exact .asText 2 (by decide) (by decide)
    · exact .asText 3 (by decide) (by decide)
    · exact .asText (-1) (by decide) (by decide)
    · exact .asText 2 (by decide) (by decide)
    · exact .same none
  have hrow : RestatedRow numbers texts := ⟨rfl, hamounts⟩
  exact ⟨hrow, (amounts_of_integers .m1).2.1 numbers texts hrow, by decide +kernel⟩

/-- The greatest integer that JSON keeps is read from a number as another. -/
theorem amounts_of_integers_greatest :
    Value.decimal? (.string (numeral greatestInt)) = Decimal.ofInt? greatestInt ∧
      Value.decimal? (.number (.int greatestInt)) = Decimal.ofInt? 18446744073709552000 ∧
      ∀ d ∈ Value.decimal? (.number (.int greatestInt)), d.toRat ≠ greatestInt := by
  decide +kernel

end TickChart
