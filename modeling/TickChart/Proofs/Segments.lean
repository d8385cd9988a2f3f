import Mathlib.Data.List.Induction
import TickChart.Proofs.Casing
import TickChart.Url.Path

/-!
# Segments behind a path

A text that is put behind a path becomes one segment from which it is decoded again, unless it has a
tab or a line break, which are dropped, or is one of the two dot segments, which lead elsewhere.

* `eq_dot_of_lowerAscii`, `percentDecode?_of_isDoubleDot`: encoded dots are dots.
* `encoded`: a text as a segment. `eq_dots_of_isDoubleDot`: it is that of two dots only if the
  text is.
* `Undotted`, `Intact`: the texts that are no dot segments, and those of which nothing is dropped.
* `appendSegment_of_undotted`, `foldl_appendSegment`: what stands behind a path.
* `intact_of_foldl_appendSegment`: of texts that stand behind a path as they are nothing is dropped.
-/

namespace TickChart.Url

open TickChart.Text

variable {special : Bool} {cs text : List Char} {ss start other more : List (List Char)}
  {texts : List (List Char)}

/-! ## Dots -/

theorem eq_of_toLower {c d : Char} (h : c.toLower = d) (hd : ∀ n < 26, d ≠ Char.ofNat (97 + n)) :
    c = d :=
  (eq_or_of_toLower h).resolve_right fun ⟨n, hn, _, heq⟩ => hd n hn heq

/-- The ways to write a dot. -/
theorem eq_dot_of_lowerAscii (h : lowerAscii cs = ['.'] ∨ lowerAscii cs = ['%', '2', 'e']) :
    cs = ['.'] ∨ cs = ['%', '2', 'e'] ∨ cs = ['%', '2', 'E'] := by
  rcases h with h | h
  · obtain ⟨c, rfl, hc⟩ := List.map_eq_singleton_iff.mp h
    exact .inl (by rw [eq_of_toLower hc (by decide)])
  · simp only [lowerAscii, List.map_eq_cons_iff, List.map_eq_nil_iff] at h
    obtain ⟨a, _, rfl, ha, b, _, rfl, hb, c, _, rfl, hc, rfl⟩ := h
    rw [eq_of_toLower ha (by decide), eq_of_toLower hb (by decide)]
    rcases eq_or_of_toLower hc with rfl | ⟨n, hn, rfl, heq⟩
    · exact .inr (.inl rfl)
    · have hletter : ∀ n < 26, 'e' = Char.ofNat (97 + n) → n = 4 := by decide
      rw [hletter n hn heq]
      exact .inr (.inr rfl)

theorem percentDecode?_of_isSingleDot (h : isSingleDot cs = true) :
    percentDecode? cs = some ['.'] := by
  simp only [isSingleDot, List.mem_cons, List.not_mem_nil, or_false, decide_eq_true_eq] at h
  rcases eq_dot_of_lowerAscii h with rfl | rfl | rfl <;> decide +kernel

theorem percentDecode?_of_isDoubleDot (h : isDoubleDot cs = true) :
    percentDecode? cs = some ['.', '.'] := by
  have hparts : ∃ x y, lowerAscii cs = x ++ y ∧ (x = ['.'] ∨ x = ['%', '2', 'e']) ∧
      (y = ['.'] ∨ y = ['%', '2', 'e']) := by
    simp only [isDoubleDot, List.mem_cons, List.not_mem_nil, or_false, decide_eq_true_eq] at h
    rcases h with h | h | h | h
    · exact ⟨['.'], ['.'], h, .inl rfl, .inl rfl⟩
    · exact ⟨['.'], ['%', '2', 'e'], h, .inl rfl, .inr rfl⟩
    · exact ⟨['%', '2', 'e'], ['.'], h, .inr rfl, .inl rfl⟩
    · exact ⟨['%', '2', 'e'], ['%', '2', 'e'], h, .inr rfl, .inr rfl⟩
  obtain ⟨x, y, hcs, hx, hy⟩ := hparts
  obtain ⟨a, b, rfl, rfl, rfl⟩ := List.map_eq_append_iff.mp hcs
  rcases eq_dot_of_lowerAscii hx with rfl | rfl | rfl <;>
    rcases eq_dot_of_lowerAscii hy with rfl | rfl | rfl <;> decide +kernel

/-! ## Texts as segments -/

/-- A text as a segment: without tabs and line breaks, and with the characters encoded that may not
stand in one. -/
def encoded (special : Bool) (text : List Char) : List Char :=
  percentEncode (segmentSet special) (withoutStripped text)

/-- A segment is decoded to what of its text was not dropped. -/
theorem percentDecode?_encoded (special : Bool) (text : List Char) :
    percentDecode? (encoded special text) = some (withoutStripped text) :=
  percentDecode?_percentEncode (by cases special <;> decide) _

/-- The text is no dot segment, also without its tabs and line breaks. -/
def Undotted (text : List Char) : Prop :=
  withoutStripped text ≠ ['.'] ∧ withoutStripped text ≠ ['.', '.']

/-- The text has no tab and no line break and is no dot segment. -/
def Intact (text : List Char) : Prop :=
  (∀ c ∈ text, isStripped c = false) ∧ text ≠ ['.'] ∧ text ≠ ['.', '.']

theorem withoutStripped_eq_self_iff :
    withoutStripped text = text ↔ ∀ c ∈ text, isStripped c = false := by
  simp [withoutStripped, List.filter_eq_self]

instance (text : List Char) : Decidable (Intact text) :=
  decidable_of_iff (withoutStripped text = text ∧ text ≠ ['.'] ∧ text ≠ ['.', '.'])
    (and_congr_left' withoutStripped_eq_self_iff)

theorem intact_iff : Intact text ↔ Undotted text ∧ withoutStripped text = text := by
  rw [Intact, Undotted, ← withoutStripped_eq_self_iff]
  constructor
  · rintro ⟨hall, hone, htwo⟩
    exact ⟨by rw [hall]; exact ⟨hone, htwo⟩, hall⟩
  · rintro ⟨⟨hone, htwo⟩, hall⟩
    rw [hall] at hone htwo
    exact ⟨hall, hone, htwo⟩

theorem eq_dot_of_isSingleDot (h : isSingleDot (encoded special text) = true) :
    withoutStripped text = ['.'] := by
  have hdecode := percentDecode?_of_isSingleDot h
  rw [percentDecode?_encoded, Option.some.injEq] at hdecode
  exact hdecode

theorem eq_dots_of_isDoubleDot (h : isDoubleDot (encoded special text) = true) :
    withoutStripped text = ['.', '.'] := by
  have hdecode := percentDecode?_of_isDoubleDot h
  rw [percentDecode?_encoded, Option.some.injEq] at hdecode
  exact hdecode

/-- No segment has a character that would end it, or the path. -/
theorem ne_of_mem_encoded {c : Char} (h : c ∈ encoded special text) :
    isSeparator special c = false ∧ endsPath c = false := by
  obtain ⟨d, -, hd⟩ := List.mem_flatMap.mp h
  rw [percentChar] at hd
  split at hd
  · obtain ⟨b, hb, hc⟩ := List.mem_flatMap.mp hd
    have hbyte := lt_of_mem_utf8Bytes hb
    have hhex : ∀ n ∈ List.range 16, ∀ special, isSeparator special (upperHexChar n) = false ∧
        endsPath (upperHexChar n) = false := by decide
    simp only [percentByte, List.mem_cons, List.not_mem_nil, or_false] at hc
    rcases hc with rfl | rfl | rfl
    · cases special <;> decide
    · exact hhex _ (List.mem_range.mpr (by omega)) special
    · exact hhex _ (List.mem_range.mpr (by omega)) special
  · next hset =>
    rw [List.mem_singleton.mp hd]
    simp only [segmentSet, pathSet, Bool.or_eq_true, decide_eq_true_eq, Bool.and_eq_true,
      List.mem_cons, List.not_mem_nil, or_false, not_or, not_and] at hset
    obtain ⟨⟨⟨⟨-, hhash, hmark, -⟩, hslash⟩, -⟩, hback⟩ := hset
    simp only [isSeparator, endsPath, hhash, hmark, hslash, decide_false, Bool.false_or,
      Bool.and_eq_false_imp, decide_eq_false_iff_not, and_true]
    exact hback

/-! ## Behind a path -/

theorem appendSegment_eq (special : Bool) (ss : List (List Char)) (text : List Char) :
    appendSegment special ss text =
      if text = ['.'] ∨ text = ['.', '.'] then ss
      else addSegment true (if ss = [[]] then [] else ss) (encoded special text) := rfl

theorem Undotted.ne_dots (h : Undotted text) : ¬ (text = ['.'] ∨ text = ['.', '.']) := by
  rintro (rfl | rfl)
  · exact h.1 rfl
  · exact h.2 rfl

/-- A text that is no dot segment stands behind the path as a segment. -/
theorem appendSegment_of_undotted (h : Undotted text) :
    appendSegment special ss text =
      (if ss = [[]] then [] else ss) ++ [encoded special text] := by
  have hsingle : isSingleDot (encoded special text) = false := by
    rw [Bool.eq_false_iff]
    exact fun hdot => h.1 (eq_dot_of_isSingleDot hdot)
  have hdouble : isDoubleDot (encoded special text) = false := by
    rw [Bool.eq_false_iff]
    exact fun hdots => h.2 (eq_dots_of_isDoubleDot hdots)
  rw [appendSegment_eq, if_neg h.ne_dots, addSegment, hdouble, hsingle]
  rfl

/-- Such texts stand behind a path one after the other. -/
theorem foldl_appendSegment (h : ∀ text ∈ texts, Undotted text) (hss : ss ≠ [])
    (hroot : ss ≠ [[]]) :
    texts.foldl (appendSegment special) ss = ss ++ texts.map (encoded special) := by
  induction texts generalizing ss with
  | nil => simp
  | cons text texts ih =>
    rw [List.forall_mem_cons] at h
    have hlength : 2 ≤ (ss ++ [encoded special text]).length := by
      have hpos := List.length_pos_iff.mpr hss
      rw [List.length_append, List.length_singleton]
      omega
    have hnext : ss ++ [encoded special text] ≠ [[]] := by
      intro heq
      rw [heq] at hlength
      exact absurd hlength (by decide)
    rw [List.foldl_cons, appendSegment_of_undotted h.1, if_neg hroot,
      ih h.2 (by simp) hnext, List.map_cons, List.append_assoc, List.singleton_append]

theorem length_addSegment_le (ss : List (List Char)) (s : List Char) :
    (addSegment true ss s).length ≤ ss.length + 1 := by
  have hshorten : (shorten ss).length ≤ ss.length := by
    rw [shorten]
    split
    · exact Nat.le_refl _
    · rw [List.length_dropLast]
      omega
  rw [addSegment]
  split
  · simpa using hshorten
  · split <;> simp

theorem length_appendSegment_le (special : Bool) (ss : List (List Char)) (text : List Char) :
    (appendSegment special ss text).length ≤ ss.length + 1 := by
  rw [appendSegment_eq]
  split
  · omega
  · refine Nat.le_trans (length_addSegment_le _ _) ?_
    split
    · simp
    · exact Nat.le_refl _

theorem length_foldl_appendSegment_le (special : Bool) (ss texts : List (List Char)) :
    (texts.foldl (appendSegment special) ss).length ≤ ss.length + texts.length := by
  induction texts generalizing ss with
  | nil => exact Nat.le_refl _
  | cons text texts ih =>
    have hstep := length_appendSegment_le special ss text
    have hrest := ih (appendSegment special ss text)
    rw [List.foldl_cons, List.length_cons]
    omega

/-- Behind dots there is an empty segment. -/
theorem addSegment_cases (ss : List (List Char)) (s : List Char) :
    ((isDoubleDot s = true ∨ isSingleDot s = true) ∧
      ∃ before, addSegment true ss s = before ++ [[]]) ∨ addSegment true ss s = ss ++ [s] := by
  rw [addSegment]
  split
  · next hdouble => exact .inl ⟨.inl hdouble, _, rfl⟩
  split
  · next hsingle => exact .inl ⟨.inr hsingle, _, rfl⟩
  · exact .inr rfl

/-- **Only texts of which nothing is dropped stand behind a path as they are.** By induction from
the last text on: of a dot segment no segment is left, and of any other text the last one is left,
which is decoded to what was not dropped. -/
theorem intact_of_foldl_appendSegment (hother : other.length = start.length) (hstart : start ≠ [])
    (h : texts.foldl (appendSegment special) start = other ++ more)
    (hmore : more.map percentDecode? = texts.map some) : ∀ text ∈ texts, Intact text := by
  induction texts using List.reverseRecOn generalizing more with
  | nil => nofun
  | append_singleton texts text ih =>
    rw [List.foldl_append, List.foldl_cons, List.foldl_nil] at h
    have hbound := length_foldl_appendSegment_le special start texts
    rw [List.map_append] at hmore
    obtain ⟨front, lasts, rfl, hfront, hlasts⟩ := List.map_eq_append_iff.mp hmore
    obtain ⟨last, rfl, hlast⟩ := List.map_eq_singleton_iff.mp hlasts
    have hlength : front.length = texts.length := by simpa using congrArg List.length hfront
    generalize texts.foldl (appendSegment special) start = ss at *
    by_cases hdots : text = ['.'] ∨ text = ['.', '.']
    · -- a dot segment is passed over, so there are fewer segments than texts
      rw [appendSegment_eq, if_pos hdots] at h
      rw [h, List.length_append, List.length_append, List.length_singleton] at hbound
      omega
    rw [appendSegment_eq, if_neg hdots, ← List.append_assoc] at h
    rcases addSegment_cases (if ss = [[]] then [] else ss) (encoded special text) with
      ⟨hdotted, before, heq⟩ | heq
    · -- the empty segment behind dots is the text of none
      rw [heq] at h
      obtain ⟨-, hempty⟩ := List.append_inj' h rfl
      rw [← List.singleton_inj.mp hempty] at hlast
      have hnothing : percentDecode? [] = some [] := percentDecode?_encoded special []
      obtain rfl : [] = text := Option.some.inj (hnothing.symm.trans hlast)
      rcases hdotted with hdouble | hsingle
      · cases eq_dots_of_isDoubleDot hdouble
      · cases eq_dot_of_isSingleDot hsingle
    · -- the last segment is the encoded text, and is decoded to the text itself
      rw [heq] at h
      obtain ⟨hbefore, hsegment⟩ := List.append_inj' h rfl
      rw [← List.singleton_inj.mp hsegment, percentDecode?_encoded, Option.some.injEq] at hlast
      have hroot : ss ≠ [[]] := by
        rintro rfl
        rw [if_pos rfl] at hbefore
        rw [(List.append_eq_nil_iff.mp hbefore.symm).1] at hother
        exact hstart (List.eq_nil_of_length_eq_zero hother.symm)
      rw [if_neg hroot] at hbefore
      have hintact : Intact text := by
        refine ⟨withoutStripped_eq_self_iff.mp hlast, ?_⟩
        rwa [not_or] at hdots
      intro t ht
      rcases List.mem_append.mp ht with ht | ht
      · exact ih hbefore hfront t ht
      · rw [List.mem_singleton.mp ht]
        exact hintact

end TickChart.Url
