import TickChart.Proofs.Fields

/-!
# Notations of instants

The texts of the three notations of an instant, as their grammars, and the exact number of seconds
since 1970 that each of them denotes. The readers read these texts and no others, and the whole
second that comes out is the one that the denoted instant lies in.

* `Shown`: what a text shows. `Shown.instant`: the instant at which it does.
* `StrictText`, `NaiveText`, `SecondsText`: the notations.
* `of_readStrict?`, `StrictText.seconds_eq` and their likes: what is read is such a text, and what
  is read of such a text.
* `marks`, `marks_of_read`: by their colons and letters no text is of two notations.
* `Denotes`, `denotes_of_readInstant?`: the instants of all texts that are read.
-/

namespace TickChart.Time

open Text

variable {cs rest text zone : List Char} {ds : List Nat} {least most n : Nat} {y offset : Int}
  {q : ℚ}

/-! ## Notations -/

/-- What a text shows: a date, a time of day with a fraction of a second, and the seconds that the
clock is ahead of UTC. -/
structure Shown where
  date : Date
  hour : Nat
  minute : Nat
  second : Nat
  fraction : ℚ
  offset : Int

namespace Shown

/-- The date exists, and the time of day is one, perhaps in a leap second. -/
def Exists (s : Shown) : Prop := s.date.Valid ∧ s.hour < 24 ∧ s.minute < 60 ∧ s.second ≤ 60

/-- The whole seconds since 1970. A leap second counts as the second before it. -/
def seconds (s : Shown) : Int :=
  s.date.dayNumber * 86400 + (s.hour * 3600 + s.minute * 60 + min s.second 59 : Nat) - s.offset

/-- The instant at which the clock shows it, in seconds since 1970. -/
def instant (s : Shown) : ℚ := s.seconds + s.fraction

end Shown

/-- The characters between the date and the time of day. -/
def IsSeparator (c : Char) : Prop := c = 'T' ∨ c = 't' ∨ c = ' '

/-- The notation of RFC 3339: every field in its full width, and an offset below a day. -/
inductive StrictText : List Char → Shown → Prop where
  | mk {year month day hour minute second part zone : List Char} {sep : Char}
    {y mo d h mi s : Nat} {q : ℚ} {offset : Int}
    (hyear : Digits 4 4 year y) (hmonth : Digits 2 2 month mo) (hday : Digits 2 2 day d)
    (hsep : IsSeparator sep)
    (hhour : Digits 2 2 hour h) (hminute : Digits 2 2 minute mi) (hsecond : Digits 2 2 second s)
    (hpart : Fraction part q) (hzone : Zone zone offset) (hoffset : offset.natAbs < 86400) :
    StrictText (year ++ '-' :: (month ++ '-' :: (day ++ sep :: (hour ++ ':' :: (minute ++ ':' ::
      (second ++ (part ++ zone))))))) ⟨⟨y, mo, d⟩, h, mi, s, q, offset⟩

/-- A date and a time of day without an offset, which is that of UTC. -/
inductive NaiveText : List Char → Shown → Prop where
  | mk {year month day hour minute second part : List Char} {y : Int} {mo d h mi s : Nat} {q : ℚ}
    (hyear : YearField year y) (hmonth : ShortField month mo) (hday : ShortField day d)
    (hhour : ShortField hour h) (hminute : ShortField minute mi) (hsecond : ShortField second s)
    (hpart : Fraction part q) :
    NaiveText (year ++ '-' :: (month ++ '-' :: (day ++ 'T' :: (hour ++ ':' :: (minute ++ ':' ::
      (second ++ part)))))) ⟨⟨y, mo, d⟩, h, mi, s, q, 0⟩

/-- A number of seconds since 1970: digits, behind a sign or none. -/
inductive SecondsText : List Char → Int → Prop where
  | plain {digits : List Char} {n : Nat} (h : Digits 1 digits.length digits n) :
    SecondsText digits n
  | signed {digits : List Char} {n : Int} (h : Signed digits n) : SecondsText digits n

/-! ## Clock readings -/

theorem of_separator (h : (skip? 'T' cs <|> skip? 't' cs <|> skip? ' ' cs) = some rest) :
    ∃ sep, IsSeparator sep ∧ cs = sep :: rest := by
  simp only [Option.orElse_eq_orElse, Option.orElse_eq_or, Option.or_eq_some_iff] at h
  rcases h with h | ⟨-, h | ⟨-, h⟩⟩
  · exact ⟨'T', .inl rfl, of_skip? h⟩
  · exact ⟨'t', .inr (.inl rfl), of_skip? h⟩
  · exact ⟨' ', .inr (.inr rfl), of_skip? h⟩

theorem IsSeparator.read {sep : Char} (h : IsSeparator sep) (cs : List Char) :
    (skip? 'T' (sep :: cs) <|> skip? 't' (sep :: cs) <|> skip? ' ' (sep :: cs)) = some cs := by
  rcases h with rfl | rfl | rfl <;> rfl

theorem of_strict? {c : Clock} (h : strict? cs = some ((c, offset), []))
    (hoffset : offset.natAbs < 86400) :
    ∃ q, StrictText cs ⟨c.date, c.hour, c.minute, c.second, q, offset⟩ := by
  simp only [strict?, bind, Option.bind_eq_some_iff, Prod.exists] at h
  obtain ⟨_, cs₁, hy, cs₂, hdash, _, cs₃, hmo, cs₄, hdash', _, cs₅, hd, cs₆, ht, _, cs₇, hh, cs₈,
    hcolon, _, cs₉, hmi, cs₁₀, hcolon', _, cs₁₁, hs, _, cs₁₂, hp, _, cs₁₃, hz, hend⟩ := h
  simp only [Option.some.injEq, Prod.mk.injEq] at hend
  obtain ⟨⟨rfl, rfl⟩, rfl⟩ := hend
  obtain ⟨year, hyear, rfl⟩ := of_number? hy
  obtain ⟨month, hmonth, rfl⟩ := of_number? hmo
  obtain ⟨day, hday, rfl⟩ := of_number? hd
  obtain ⟨hour, hhour, rfl⟩ := of_number? hh
  obtain ⟨minute, hminute, rfl⟩ := of_number? hmi
  obtain ⟨second, hsecond, rfl⟩ := of_number? hs
  obtain ⟨part, q, hpart, rfl⟩ := of_fraction? hp
  obtain rfl := of_skip? hdash
  obtain rfl := of_skip? hdash'
  obtain ⟨sep, hsep, rfl⟩ := of_separator ht
  obtain rfl := of_skip? hcolon
  obtain rfl := of_skip? hcolon'
  exact ⟨q, .mk hyear hmonth hday hsep hhour hminute hsecond hpart (of_offset? hz) hoffset⟩

theorem StrictText.read {s : Shown} (h : StrictText cs s) :
    ∃ nanos, strict? cs =
      some ((⟨s.date, s.hour, s.minute, s.second, nanos⟩, s.offset), []) := by
  cases h with
  | mk hyear hmonth hday hsep hhour hminute hsecond hpart hzone hoffset =>
    obtain ⟨nanos, hread⟩ := hpart.read hzone.ends.1 hzone.ends.2
    refine ⟨nanos, ?_⟩
    simp only [strict?, bind, Option.bind_some, hyear.read_full, hmonth.read_full, hday.read_full,
      hsep.read, hhour.read_full, hminute.read_full, hsecond.read_full, hread, hzone.read,
      skip?_cons]

theorem of_naive? {c : Clock} (h : naive? cs = some (c, [])) :
    ∃ q, NaiveText cs ⟨c.date, c.hour, c.minute, c.second, q, 0⟩ := by
  simp only [naive?, bind, Option.bind_eq_some_iff, Prod.exists] at h
  obtain ⟨_, cs₁, hy, cs₂, hdash, _, cs₃, hmo, cs₄, hdash', _, cs₅, hd, cs₆, ht, _, cs₇, hh, cs₈,
    hcolon, _, cs₉, hmi, cs₁₀, hcolon', _, cs₁₁, hs, _, cs₁₂, hp, hend⟩ := h
  simp only [Option.some.injEq, Prod.mk.injEq] at hend
  obtain ⟨rfl, rfl⟩ := hend
  obtain ⟨year, hyear, rfl⟩ := of_year? hy
  obtain ⟨month, hmonth, rfl⟩ := of_short? hmo
  obtain ⟨day, hday, rfl⟩ := of_short? hd
  obtain ⟨hour, hhour, rfl⟩ := of_short? hh
  obtain ⟨minute, hminute, rfl⟩ := of_short? hmi
  obtain ⟨second, hsecond, rfl⟩ := of_short? hs
  obtain ⟨part, q, hpart, rfl⟩ := of_fraction? hp
  obtain rfl := of_skip? hdash
  obtain rfl := of_skip? hdash'
  obtain rfl := of_skip? ht
  obtain rfl := of_skip? hcolon
  obtain rfl := of_skip? hcolon'
  rw [List.append_nil]
  exact ⟨q, .mk hyear hmonth hday hhour hminute hsecond hpart⟩

theorem NaiveText.read {s : Shown} (h : NaiveText cs s) :
    ∃ nanos, naive? cs = some (⟨s.date, s.hour, s.minute, s.second, nanos⟩, []) := by
  cases h with
  | mk hyear hmonth hday hhour hminute hsecond hpart =>
    obtain ⟨nanos, hread⟩ := hpart.read noDigit_nil (by simp)
    rw [List.append_nil] at hread
    have hdash (cs : List Char) : NoDigit ('-' :: cs) := noDigit_cons (by decide)
    have hsep (cs : List Char) : NoDigit ('T' :: cs) := noDigit_cons (by decide)
    have hcolon (cs : List Char) : NoDigit (':' :: cs) := noDigit_cons (by decide)
    refine ⟨nanos, ?_⟩
    simp only [naive?, bind, Option.bind_some, hyear.read (hdash _), hmonth.read (hdash _),
      hday.read (hsep _), hhour.read (hcolon _), hminute.read (hcolon _),
      hsecond.read hpart.noDigit, hread, skip?_cons]

/-! ## Readers -/

theorem of_ofClock? {c : Clock} {t : Instant} (h : Instant.ofClock? c offset = some t) :
    c.Valid ∧ t.seconds = c.seconds - offset := by
  rw [Instant.ofClock?] at h
  split at h
  · next hvalid =>
    obtain ⟨shown, hshown, ht⟩ := Option.bind_eq_some_iff.mp h
    rw [(Instant.mk?_eq_some_iff.mp ht).1, (Instant.mk?_eq_some_iff.mp hshown).1]
    exact ⟨hvalid, rfl⟩
  · cases h

variable {t : Instant} {s : Shown}

theorem of_readStrict? (h : readStrict? cs = some t) :
    ∃ s, StrictText cs s ∧ s.Exists ∧ t.seconds = s.seconds := by
  unfold readStrict? at h
  split at h
  · next c offset hread =>
    split at h
    · next hoffset =>
      obtain ⟨q, htext⟩ := of_strict? hread hoffset
      obtain ⟨⟨hdate, hhour, hminute, hsecond, -⟩, hseconds⟩ := of_ofClock? h
      exact ⟨_, htext, ⟨hdate, hhour, hminute, hsecond⟩, hseconds⟩
    · cases h
  · cases h

theorem StrictText.seconds_eq (h : StrictText cs s) (hread : readStrict? cs = some t) :
    t.seconds = s.seconds := by
  obtain ⟨nanos, hclock⟩ := h.read
  simp only [readStrict?, hclock] at hread
  split at hread
  · exact (of_ofClock? hread).2
  · cases hread

theorem of_readNaive? (h : readNaive? cs = some t) :
    ∃ s, NaiveText cs s ∧ s.Exists ∧ t.seconds = s.seconds := by
  unfold readNaive? at h
  split at h
  · next c hread =>
    obtain ⟨q, htext⟩ := of_naive? hread
    obtain ⟨⟨hdate, hhour, hminute, hsecond, -⟩, hseconds⟩ := of_ofClock? h
    exact ⟨_, htext, ⟨hdate, hhour, hminute, hsecond⟩, hseconds⟩
  · cases h

theorem NaiveText.seconds_eq (h : NaiveText cs s) (hread : readNaive? cs = some t) :
    t.seconds = s.seconds := by
  obtain ⟨nanos, hclock⟩ := h.read
  simp only [readNaive?, hclock] at hread
  have hoffset : s.offset = 0 := by cases h; rfl
  rw [(of_ofClock? hread).2, Shown.seconds, hoffset]
  rfl

theorem exists_digitValues? {ds : List Nat} (h : digitValues? cs = some ds) :
    (∀ d ∈ ds, d < 10) ∧ cs = written ds := by
  induction cs generalizing ds with
  | nil => cases h; exact ⟨nofun, rfl⟩
  | cons c cs ih =>
    simp only [digitValues?, List.mapM_cons, bind, Option.bind_eq_some_iff, pure,
      Option.some.injEq] at h
    obtain ⟨d, hd, ds, hds, rfl⟩ := h
    obtain ⟨hlt, hcs⟩ := ih hds
    refine ⟨List.forall_mem_cons.mpr ⟨digit?_lt hd, hlt⟩, ?_⟩
    rw [written_cons, ← hcs, eq_digitChar_of_digit? hd]

theorem of_readDigits? (h : readDigits? cs = some n) : Digits 1 cs.length cs n := by
  rw [readDigits?] at h
  split at h
  · cases h
  · next hne =>
    obtain ⟨ds, hds, hn⟩ := Option.map_eq_some_iff.mp h
    obtain ⟨hlt, rfl⟩ := exists_digitValues? hds
    have hpos : 0 < ds.length := by
      rw [List.length_pos_iff]
      rintro rfl
      exact hne rfl
    exact ⟨ds, hlt, hpos, by simp, rfl, hn⟩

theorem Digits.readDigits?_eq (h : Digits 1 most text n) : readDigits? text = some n := by
  obtain ⟨ds, hds, hleast, -, rfl, hn⟩ := h
  have hne : (written ds).isEmpty = false := by
    rw [List.isEmpty_eq_false_iff, ← List.length_pos_iff, length_written]
    exact hleast
  rw [readDigits?, hne, digitValues?_written hds, Option.map_some, hn]
  rfl

theorem of_readInt? {low top : Int} (h : readInt? low top cs = some y) : SecondsText cs y := by
  obtain ⟨hvalue, -⟩ := Option.filter_eq_some_iff.mp h
  split at hvalue
  · next more =>
    obtain ⟨z, hz, rfl⟩ := Option.map_eq_some_iff.mp hvalue
    obtain ⟨n, hn, hpure⟩ := Option.bind_eq_some_iff.mp hz
    cases hpure
    exact .signed (.minus (of_readDigits? hn))
  · next more =>
    obtain ⟨n, hn, rfl⟩ := Option.map_eq_some_iff.mp hvalue
    exact .signed (.plus (of_readDigits? hn))
  · obtain ⟨n, hn, rfl⟩ := Option.map_eq_some_iff.mp hvalue
    exact .plain (of_readDigits? hn)

theorem SecondsText.readInt?_eq {low top z : Int} (h : SecondsText cs y)
    (hread : readInt? low top cs = some z) : z = y := by
  obtain ⟨hvalue, -⟩ := Option.filter_eq_some_iff.mp hread
  cases h with
  | plain hdigits =>
    split at hvalue
    · next more => exact absurd (List.append_nil _) (hdigits.ne_cons (by decide) (by decide) more)
    · next more => exact absurd (List.append_nil _) (hdigits.ne_cons (by decide) (by decide) more)
    · rw [hdigits.readDigits?_eq, Option.map_some, Option.some.injEq] at hvalue
      exact hvalue.symm
  | signed hsigned =>
    cases hsigned with
    | plus hdigits =>
      simp only [hdigits.readDigits?_eq, Option.map_some, Option.some.injEq] at hvalue
      exact hvalue.symm
    | minus hdigits =>
      simp only [hdigits.readDigits?_eq, bind, Option.bind_some, pure, Option.map_some,
        Option.some.injEq] at hvalue
      exact hvalue.symm

theorem of_readSeconds? (h : readSeconds? cs = some t) : SecondsText cs t.seconds := by
  obtain ⟨n, hn, ht⟩ := Option.bind_eq_some_iff.mp h
  rw [(Instant.mk?_eq_some_iff.mp ht).1]
  exact of_readInt? hn

theorem SecondsText.seconds_eq (h : SecondsText cs y) (hread : readSeconds? cs = some t) :
    t.seconds = y := by
  obtain ⟨n, hn, ht⟩ := Option.bind_eq_some_iff.mp hread
  rw [(Instant.mk?_eq_some_iff.mp ht).1]
  exact h.readInt?_eq hn

/-! ## One notation at most -/

/-- A colon, or the letter of an offset. -/
def isMark (c : Char) : Bool := c = ':' || c = 'Z' || c = 'z'

/-- How many there are. -/
def marks (cs : List Char) : Nat := cs.countP isMark

@[simp] theorem marks_nil : marks [] = 0 := rfl

@[simp] theorem marks_append (a b : List Char) : marks (a ++ b) = marks a + marks b :=
  List.countP_append

@[simp] theorem marks_cons (c : Char) (cs : List Char) :
    marks (c :: cs) = marks cs + if isMark c then 1 else 0 := List.countP_cons

theorem marks_written (hds : ∀ d ∈ ds, d < 10) : marks (written ds) = 0 := by
  have hdigit : ∀ d < 10, ¬ isMark (digitChar d) = true := by decide
  refine List.countP_eq_zero.mpr fun c hc => ?_
  obtain ⟨d, hd, rfl⟩ := List.mem_map.mp hc
  exact hdigit d (hds d hd)

theorem marks_pad {pad : List Char} (h : ∀ c ∈ pad, isBlank c = true) : marks pad = 0 := by
  refine List.countP_eq_zero.mpr fun c hc hmark => ?_
  have hblank := h c hc
  simp only [isMark, Bool.or_eq_true, decide_eq_true_eq] at hmark
  rcases hmark with (rfl | rfl) | rfl <;> revert hblank <;> decide

theorem Digits.marks_eq (h : Digits least most text n) : marks text = 0 := by
  obtain ⟨ds, hds, -, -, rfl, -⟩ := h
  exact marks_written hds

theorem Signed.marks_eq (h : Signed text y) : marks text = 0 := by
  cases h with
  | plus hdigits => rw [marks_cons, hdigits.marks_eq]; rfl
  | minus hdigits => rw [marks_cons, hdigits.marks_eq]; rfl

theorem ShortField.marks_eq (h : ShortField text n) : marks text = 0 := by
  obtain ⟨pad, digits, hpad, hdigits, rfl⟩ := h
  rw [marks_append, marks_pad hpad, hdigits.marks_eq]

theorem YearField.marks_eq (h : YearField text y) : marks text = 0 := by
  obtain ⟨pad, digits, hpad, hsigned | ⟨n, hdigits, -⟩, rfl⟩ := h
  · rw [marks_append, marks_pad hpad, hsigned.marks_eq]
  · rw [marks_append, marks_pad hpad, hdigits.marks_eq]

theorem Fraction.marks_eq (h : Fraction text q) : marks text = 0 := by
  cases h with
  | none => rfl
  | point hds => rw [marks_cons, marks_written hds]; rfl

theorem Zone.marks_eq (h : Zone zone offset) : marks zone = 1 := by
  cases h with
  | utc hc => rcases hc with rfl | rfl <;> rfl
  | ahead hhours hminutes =>
    simp only [marks_cons, marks_append, hhours.marks_eq, hminutes.marks_eq]
    rfl
  | behind hc hhours hminutes =>
    simp only [marks_cons, marks_append, hhours.marks_eq, hminutes.marks_eq]
    rcases hc with rfl | rfl <;> rfl

theorem StrictText.marks_eq (h : StrictText cs s) : marks cs = 3 := by
  cases h with
  | mk hyear hmonth hday hsep hhour hminute hsecond hpart hzone hoffset =>
    simp only [marks_cons, marks_append, hyear.marks_eq, hmonth.marks_eq, hday.marks_eq,
      hhour.marks_eq, hminute.marks_eq, hsecond.marks_eq, hpart.marks_eq, hzone.marks_eq]
    rcases hsep with rfl | rfl | rfl <;> rfl

theorem NaiveText.marks_eq (h : NaiveText cs s) : marks cs = 2 := by
  cases h with
  | mk hyear hmonth hday hhour hminute hsecond hpart =>
    simp only [marks_cons, marks_append, hyear.marks_eq, hmonth.marks_eq, hday.marks_eq,
      hhour.marks_eq, hminute.marks_eq, hsecond.marks_eq, hpart.marks_eq]
    rfl

theorem SecondsText.marks_eq (h : SecondsText cs y) : marks cs = 0 := by
  cases h with
  | plain hdigits => exact hdigits.marks_eq
  | signed hsigned => exact hsigned.marks_eq

/-- The instant that a text denotes, in seconds since 1970. -/
inductive Denotes : List Char → ℚ → Prop where
  | strict {cs : List Char} {s : Shown} (htext : StrictText cs s) (hexists : s.Exists) :
    Denotes cs s.instant
  | naive {cs : List Char} {s : Shown} (htext : NaiveText cs s) (hexists : s.Exists) :
    Denotes cs s.instant
  | seconds {cs : List Char} {n : Int} (htext : SecondsText cs n) : Denotes cs n

/-- An instant lies in its whole second. -/
theorem Shown.instant_bounds (h : 0 ≤ s.fraction ∧ s.fraction < 1) :
    s.seconds ≤ s.instant ∧ s.instant < s.seconds + 1 :=
  ⟨le_add_of_nonneg_right h.1, add_lt_add_right h.2 _⟩

theorem StrictText.instant_bounds (h : StrictText cs s) :
    s.seconds ≤ s.instant ∧ s.instant < s.seconds + 1 := by
  cases h with
  | mk _ _ _ _ _ _ _ hpart => exact Shown.instant_bounds hpart.bounds

theorem NaiveText.instant_bounds (h : NaiveText cs s) :
    s.seconds ≤ s.instant ∧ s.instant < s.seconds + 1 := by
  cases h with
  | mk _ _ _ _ _ _ hpart => exact Shown.instant_bounds hpart.bounds

/-- What is read is a text of one of the notations, read as such. -/
theorem readInstant?_cases {text : String} (h : readInstant? text = some t) :
    readStrict? (trim text.toList) = some t ∨ readNaive? (trim text.toList) = some t ∨
      readSeconds? (trim text.toList) = some t := by
  simp only [readInstant?, Option.orElse_eq_orElse, Option.orElse_eq_or, Option.or_eq_some_iff] at h
  rcases h with h | ⟨-, h | ⟨-, h⟩⟩
  · exact .inl h
  · exact .inr (.inl h)
  · exact .inr (.inr h)

/-- A text was read by the reader of its notation and by no other: its marks tell which. -/
theorem marks_of_read
    (h : readStrict? cs = some t ∨ readNaive? cs = some t ∨ readSeconds? cs = some t) :
    readStrict? cs = some t ∧ marks cs = 3 ∨ readNaive? cs = some t ∧ marks cs = 2 ∨
      readSeconds? cs = some t ∧ marks cs = 0 := by
  rcases h with hread | hread | hread
  · obtain ⟨s, htext, -, -⟩ := of_readStrict? hread
    exact .inl ⟨hread, htext.marks_eq⟩
  · obtain ⟨s, htext, -, -⟩ := of_readNaive? hread
    exact .inr (.inl ⟨hread, htext.marks_eq⟩)
  · exact .inr (.inr ⟨hread, (of_readSeconds? hread).marks_eq⟩)

/-- **The instants of texts.** A text that is read denotes an instant, and whatever it denotes lies
in the whole second that comes out. -/
theorem denotes_of_readInstant? {text : String} (h : readInstant? text = some t) :
    (∃ q, Denotes (trim text.toList) q) ∧
      ∀ q, Denotes (trim text.toList) q → t.seconds ≤ q ∧ q < t.seconds + 1 := by
  have hcases := readInstant?_cases h
  generalize trim text.toList = cs at hcases
  constructor
  · rcases hcases with hread | hread | hread
    · obtain ⟨s, htext, hexists, -⟩ := of_readStrict? hread
      exact ⟨_, .strict htext hexists⟩
    · obtain ⟨s, htext, hexists, -⟩ := of_readNaive? hread
      exact ⟨_, .naive htext hexists⟩
    · exact ⟨_, .seconds (of_readSeconds? hread)⟩
  · -- a text that was read by one reader is denoted in no notation but its own
    have hmarks := marks_of_read hcases
    intro q hq
    cases hq with
    | strict htext =>
      have hthree := htext.marks_eq
      rcases hmarks with ⟨hread, -⟩ | ⟨-, hother⟩ | ⟨-, hother⟩
      · rw [htext.seconds_eq hread]
        exact htext.instant_bounds
      · omega
      · omega
    | naive htext =>
      have htwo := htext.marks_eq
      rcases hmarks with ⟨-, hother⟩ | ⟨hread, -⟩ | ⟨-, hother⟩
      · omega
      · rw [htext.seconds_eq hread]
        exact htext.instant_bounds
      · omega
    | seconds htext =>
      have hnone := htext.marks_eq
      rcases hmarks with ⟨-, hother⟩ | ⟨-, hother⟩ | ⟨hread, -⟩
      · omega
      · omega
      · rw [htext.seconds_eq hread]
        exact ⟨le_refl _, lt_add_one _⟩

end TickChart.Time
