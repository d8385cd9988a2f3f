import TickChart.Chart.Timeline
import TickChart.Proofs.Series

/-!
# The series of a timeline

Whatever is done with a timeline, and with whatever generations and candles, its series ascends; and
between two replacements of it nothing but its last candle changes.

* `Timeline.Input`, `Timeline.after`: what can be done with a timeline, and the timeline afterwards.
  What is refused leaves it as it is.
* `reset_ok`, `follow_ok`: all that an accepted history and an accepted live candle do.
  `follow_error`: all that a refused live candle can be.
* `after_opened`, `after_updated`, and the lemmas beside them: when a live candle is accepted.
* `Input.Live`: inputs among which no series is replaced.
* `series_ascending_and_settled`: the two properties, for every run from the initial timeline.
-/

namespace TickChart

namespace Timeline

variable {t t' : Timeline} {g : Generation} {event : CandleEvent} {change : SeriesChange}
  {candles : List Candle} {c : Candle}

/-! ## Inversion -/

/-- All that an accepted history does. -/
theorem reset_ok (h : t.reset g candles = .ok (t', change)) :
    g = t.generation ∧ t' = ⟨t.generation, Series.ofCandles candles⟩ ∧
      change = .replaceAll (Series.ofCandles candles) := by
  simp only [reset] at h
  split at h
  · next hg => cases h; exact ⟨hg, rfl, rfl⟩
  · cases h

theorem append_ok (h : t.append c = .ok (t', change)) :
    (∀ b, Series.lastBucket? t.series = some b → b < c.bucketStart) ∧
      t' = ⟨t.generation, t.series ++ [c]⟩ ∧ change = .upsertLast c := by
  simp only [append] at h
  split at h
  · next last hl =>
    split at h
    · cases h
    · next hc =>
      cases h
      exact ⟨fun b hb => (by rw [hl] at hb; cases hb; omega), rfl, rfl⟩
  · next hl =>
    cases h
    have hs := Series.lastBucket?_eq_none_iff.mp hl
    exact ⟨fun b hb => (by rw [hl] at hb; cases hb), by rw [hs]; rfl, rfl⟩

theorem replaceLast_ok (h : t.replaceLast c = .ok (t', change)) :
    ∃ front old, t.series = front ++ [old] ∧ old.bucketStart = c.bucketStart ∧
      t' = ⟨t.generation, front ++ [c]⟩ ∧ change = .upsertLast c := by
  simp only [replaceLast] at h
  split at h
  · next hl =>
    cases h
    obtain ⟨front, old, hs, hb⟩ := Series.lastBucket?_eq_some_iff.mp hl
    exact ⟨front, old, hs, hb, by rw [hs, List.dropLast_concat], rfl⟩
  · cases h

/-- All that an accepted live candle does: one that opens a bucket goes behind all others, one that
updates a bucket takes the place of the last one, which is of the same bucket. -/
theorem follow_ok (h : t.follow g event = .ok (t', change)) :
    g = t.generation ∧ change = .upsertLast event.candle ∧
      ((event = .opened event.candle ∧
          (∀ b, Series.lastBucket? t.series = some b → b < event.candle.bucketStart) ∧
          t' = ⟨t.generation, t.series ++ [event.candle]⟩) ∨
        (event = .updated event.candle ∧
          ∃ front old, t.series = front ++ [old] ∧
            old.bucketStart = event.candle.bucketStart ∧
            t' = ⟨t.generation, front ++ [event.candle]⟩)) := by
  simp only [follow] at h
  split at h
  · next hg =>
    cases event with
    | opened c =>
      obtain ⟨hb, ht, hc⟩ := append_ok h
      exact ⟨hg, hc, .inl ⟨rfl, hb, ht⟩⟩
    | updated c =>
      obtain ⟨front, old, hs, hb, ht, hc⟩ := replaceLast_ok h
      exact ⟨hg, hc, .inr ⟨rfl, front, old, hs, hb, ht⟩⟩
  · cases h

/-- All that a refused live candle can be: one of another generation, one whose bucket is not after
the last one though it opens it, or one of another bucket than the last one. -/
theorem follow_error {refusal : Refusal} (h : t.follow g event = .error refusal) :
    (g ≠ t.generation ∧ refusal = .stale g t.generation) ∨
      (event = .opened event.candle ∧ ∃ last, Series.lastBucket? t.series = some last ∧
        event.candle.bucketStart ≤ last ∧ refusal = .outOfOrder event.candle.bucketStart last) ∨
      (event = .updated event.candle ∧
        Series.lastBucket? t.series ≠ some event.candle.bucketStart ∧
        refusal = .bucketMismatch event.candle.bucketStart (Series.lastBucket? t.series)) := by
  simp only [follow] at h
  split at h
  · cases event with
    | opened c =>
      simp only [append] at h
      split at h
      · next last hlast =>
        split at h
        · next hle => cases h; exact .inr (.inl ⟨rfl, last, hlast, hle, rfl⟩)
        · cases h
      · cases h
    | updated c =>
      simp only [replaceLast] at h
      split at h
      · cases h
      · next hne => cases h; exact .inr (.inr ⟨rfl, hne, rfl⟩)
  · next hg => cases h; exact .inl ⟨hg, rfl⟩

theorem follow_generation (h : t.follow g event = .ok (t', change)) :
    t'.generation = t.generation := by
  obtain ⟨-, -, ⟨-, -, rfl⟩ | ⟨-, -, -, -, -, rfl⟩⟩ := follow_ok h <;> rfl

/-- An accepted live candle leaves an ascending series. -/
theorem follow_ascending (h : t.follow g event = .ok (t', change))
    (ha : Series.Ascending t.series) : Series.Ascending t'.series := by
  obtain ⟨-, -, ⟨-, hb, rfl⟩ | ⟨-, front, old, hs, hb, rfl⟩⟩ := follow_ok h
  · exact ha.concat hb
  · rw [hs] at ha
    exact ha.replaceLast hb.symm

/-! ## Runs -/

/-- What can be done with a timeline. -/
inductive Input where
  /-- A new generation begins. -/
  | begin
  /-- A history that was made for a generation comes in. -/
  | reset (generation : Generation) (candles : List Candle)
  /-- A live candle that was made for a generation comes in. -/
  | follow (generation : Generation) (event : CandleEvent)

/-- The timeline after an input. What is refused leaves it as it is. -/
def after (t : Timeline) : Input → Timeline
  | .begin => t.begin
  | .reset g candles =>
    match t.reset g candles with
    | .ok (t', _) => t'
    | .error _ => t
  | .follow g event =>
    match t.follow g event with
    | .ok (t', _) => t'
    | .error _ => t

/-- The timeline after what a tick did to the open candle, if it did anything. -/
def afterEvent (t : Timeline) (g : Generation) : Option CandleEvent → Timeline
  | none => t
  | some event => t.after (.follow g event)

/-- A candle of a later bucket than the last one goes behind the series. -/
theorem follow_opened (h : ∀ b, Series.lastBucket? t.series = some b → b < c.bucketStart) :
    t.follow t.generation (.opened c) =
      .ok (⟨t.generation, t.series ++ [c]⟩, .upsertLast c) := by
  simp only [follow, ↓reduceIte, append]
  cases hb : Series.lastBucket? t.series with
  | none => rw [Series.lastBucket?_eq_none_iff.mp hb]; rfl
  | some b => simp only [if_neg (Int.not_le.mpr (h b hb))]

theorem after_opened (h : ∀ b, Series.lastBucket? t.series = some b → b < c.bucketStart) :
    t.after (.follow t.generation (.opened c)) = ⟨t.generation, t.series ++ [c]⟩ := by
  rw [after, follow_opened h]

theorem after_opened_of_le {b : Int} (hb : Series.lastBucket? t.series = some b)
    (h : c.bucketStart ≤ b) : t.after (.follow t.generation (.opened c)) = t := by
  simp only [after, follow, ↓reduceIte, append, hb, if_pos h]

/-- A candle of the last bucket takes the place of the last one. -/
theorem after_updated {front : List Candle} {old : Candle} (hs : t.series = front ++ [old])
    (h : old.bucketStart = c.bucketStart) :
    t.after (.follow t.generation (.updated c)) = ⟨t.generation, front ++ [c]⟩ := by
  simp only [after, follow, ↓reduceIte, replaceLast, hs, Series.lastBucket?_concat, h,
    List.dropLast_concat]

theorem after_updated_of_ne (h : Series.lastBucket? t.series ≠ some c.bucketStart) :
    t.after (.follow t.generation (.updated c)) = t := by
  simp only [after, follow, ↓reduceIte, replaceLast, if_neg h]

/-- The timeline after inputs, from the first to the last. -/
def afterAll (t : Timeline) (inputs : List Input) : Timeline := inputs.foldl after t

theorem afterAll_append (t : Timeline) (a b : List Input) :
    t.afterAll (a ++ b) = (t.afterAll a).afterAll b := List.foldl_append

/-- An input that does not replace the series of generation `g`: neither a new generation nor a
history that is accepted. -/
def Input.Live (g : Generation) : Input → Prop
  | .begin => False
  | .reset g' _ => g' ≠ g
  | .follow _ _ => True

theorem after_ascending (ha : Series.Ascending t.series) (input : Input) :
    Series.Ascending (t.after input).series := by
  cases input with
  | begin => exact Series.ascending_nil
  | reset g candles =>
    simp only [after]
    split
    · next h => obtain ⟨-, rfl, -⟩ := reset_ok h; exact Series.ascending_ofCandles candles
    · exact ha
  | follow g event =>
    simp only [after]
    split
    · next h => exact follow_ascending h ha
    · exact ha

theorem afterAll_ascending (ha : Series.Ascending t.series) (inputs : List Input) :
    Series.Ascending (t.afterAll inputs).series := by
  induction inputs generalizing t with
  | nil => exact ha
  | cons input inputs ih => exact ih (after_ascending ha input)

/-- What a live input may do to a series: the candles before the last one stay in their places, and
so does every bucket. -/
structure Extends (before now : List Candle) : Prop where
  settled : before.dropLast <+: now.dropLast
  buckets : before.map Candle.bucketStart <+: now.map Candle.bucketStart

theorem Extends.refl (series : List Candle) : Extends series series :=
  ⟨List.prefix_rfl, List.prefix_rfl⟩

theorem Extends.trans {a b d : List Candle} (h : Extends a b) (h' : Extends b d) : Extends a d :=
  ⟨h.settled.trans h'.settled, h.buckets.trans h'.buckets⟩

theorem follow_extends (h : t.follow g event = .ok (t', change)) : Extends t.series t'.series := by
  obtain ⟨-, -, ⟨-, -, rfl⟩ | ⟨-, front, old, hs, hb, rfl⟩⟩ := follow_ok h
  · exact ⟨by simpa using List.dropLast_prefix t.series, by simp⟩
  · rw [hs]
    exact ⟨by simp, by simp [hb]⟩

theorem after_extends {input : Input} (h : input.Live t.generation) :
    (t.after input).generation = t.generation ∧ Extends t.series (t.after input).series := by
  cases input with
  | begin => exact h.elim
  | reset g candles =>
    have hne : g ≠ t.generation := h
    simp only [after, reset, if_neg hne]
    exact ⟨trivial, .refl _⟩
  | follow g event =>
    simp only [after]
    split
    · next h => exact ⟨follow_generation h, follow_extends h⟩
    · exact ⟨rfl, .refl _⟩

theorem afterEvent_generation {answer : Option CandleEvent} :
    (t.afterEvent g answer).generation = t.generation := by
  cases answer with
  | none => rfl
  | some event => exact (after_extends (by exact trivial : (Input.follow g event).Live _)).1

/-- Live inputs only add candles behind the series and change its last one. -/
theorem afterAll_extends {inputs : List Input} (h : ∀ i ∈ inputs, i.Live t.generation) :
    (t.afterAll inputs).generation = t.generation ∧
      Extends t.series (t.afterAll inputs).series := by
  induction inputs generalizing t with
  | nil => exact ⟨rfl, .refl _⟩
  | cons input inputs ih =>
    obtain ⟨hg, he⟩ := after_extends (h input List.mem_cons_self)
    obtain ⟨hg', he'⟩ := ih (t := t.after input)
      fun i hi => hg ▸ h i (List.mem_cons_of_mem _ hi)
    exact ⟨hg'.trans hg, he.trans he'⟩

/-! ## Every run -/

/-- **The series ascends and settles.** After any inputs whatever, the series ascends. The next live
candle that is accepted goes behind all others, or takes the place of the last one, of the same
bucket. And until the series is replaced, no input at all changes a candle before the last one, or
the bucket of any. -/
theorem series_ascending_and_settled (inputs : List Input) :
    Series.Ascending (initial.afterAll inputs).series ∧
      (∀ g event t' change, (initial.afterAll inputs).follow g event = .ok (t', change) →
        (event = .opened event.candle ∧
            t'.series = (initial.afterAll inputs).series ++ [event.candle] ∧
            ∀ d ∈ (initial.afterAll inputs).series, d.bucketStart < event.candle.bucketStart) ∨
          (event = .updated event.candle ∧
            ∃ front old, (initial.afterAll inputs).series = front ++ [old] ∧
              t'.series = front ++ [event.candle] ∧
              event.candle.bucketStart = old.bucketStart)) ∧
      ∀ more, (∀ i ∈ more, i.Live (initial.afterAll inputs).generation) →
        Extends (initial.afterAll inputs).series (initial.afterAll (inputs ++ more)).series := by
  have ha := afterAll_ascending (t := initial) Series.ascending_nil inputs
  refine ⟨ha, fun g event t' change h => ?_, fun more h => ?_⟩
  · obtain ⟨-, -, ⟨he, hb, rfl⟩ | ⟨he, front, old, hs, hb, rfl⟩⟩ := follow_ok h
    · exact .inl ⟨he, rfl, (Series.ascending_concat.mp (ha.concat hb)).2⟩
    · exact .inr ⟨he, front, old, hs, rfl, hb.symm⟩
  · rw [afterAll_append]
    exact (afterAll_extends h).2

end Timeline

end TickChart
