import TickChart.Chart.Surface
import TickChart.Proofs.Timeline

/-!
# Refused inputs

A timeline refuses what was made for another generation, and a live candle that does not fit behind
its series. What it refuses might as well not have come: the same run without the refused inputs
gives the same answers to all others, and ends in the same timeline. And since generations only
grow, a tag is dead for ever once a later generation has begun.

* `Timeline.Answer`, `Timeline.answer`: what a timeline says to an input.
* `Timeline.record`, `Timeline.heeded`: the inputs of a run with their answers, and those among them
  that were not refused.
* `Timeline.issued`: the tags that were given out in a run.
* `after_of_refused`, `record_heeded`, `afterAll_heeded`: what is refused leaves no trace.
* `number_lt_of_begin`, `number_le_of_issued`, `refuses_of_ne`: a tag that was given out before a
  generation began is another one than the present one, and is refused.
* `refused_without_trace`: both, for every run from the initial timeline.
-/

namespace TickChart

namespace Timeline

variable {t : Timeline} {input : Input}

/-- What a timeline says to an input. -/
inductive Answer where
  /-- A generation has begun, and this is its tag. -/
  | began (generation : Generation)
  /-- The input was accepted. -/
  | changed (change : SeriesChange)
  /-- The input was refused. -/
  | refused (refusal : Refusal)
deriving DecidableEq

namespace Answer

/-- The answer to a history or to a live candle. -/
def ofResult : Except Refusal (Timeline × SeriesChange) → Answer
  | .ok (_, change) => .changed change
  | .error refusal => .refused refusal

def isRefused : Answer → Bool
  | .refused _ => true
  | .began _ | .changed _ => false

/-- The call that shows a surface what was changed. -/
def call? : Answer → Option SurfaceCall
  | .changed change => some change.call
  | .began _ | .refused _ => none

/-- The tag that was given out. -/
def tag? : Answer → Option Generation
  | .began generation => some generation
  | .changed _ | .refused _ => none

end Answer

/-- The answer of a timeline to an input. -/
def answer (t : Timeline) : Input → Answer
  | .begin => .began t.begin.generation
  | .reset g candles => .ofResult (t.reset g candles)
  | .follow g event => .ofResult (t.follow g event)

/-- The inputs of a run, each with the answer to it. -/
def record (t : Timeline) : List Input → List (Input × Answer)
  | [] => []
  | input :: inputs => (input, t.answer input) :: (t.after input).record inputs

/-- The inputs of a run that were not refused, each with the answer to it. -/
def heeded (t : Timeline) (inputs : List Input) : List (Input × Answer) :=
  (t.record inputs).filter fun p => !p.2.isRefused

/-- The tags of a run: the one with which it began, and those that were given out in it. -/
def issued (t : Timeline) (inputs : List Input) : List Generation :=
  t.generation :: (t.record inputs).filterMap fun p => p.2.tag?

/-- The calls for all that was changed in a run. -/
def changes (record : List (Input × Answer)) : List SurfaceCall :=
  record.filterMap fun p => p.2.call?

/-! ## Without the refused inputs -/

/-- What is refused leaves the timeline as it is. -/
theorem after_of_refused (h : (t.answer input).isRefused) : t.after input = t := by
  cases input with
  | begin => cases h
  | reset g candles =>
    rw [answer] at h
    rw [after]
    cases hr : t.reset g candles with
    | error refusal => rfl
    | ok result => rw [hr] at h; cases h
  | follow g event =>
    rw [answer] at h
    rw [after]
    cases hf : t.follow g event with
    | error refusal => rfl
    | ok result => rw [hf] at h; cases h

theorem heeded_cons_of_refused (h : (t.answer input).isRefused) (inputs : List Input) :
    t.heeded (input :: inputs) = t.heeded inputs := by
  have hafter := after_of_refused h
  unfold heeded
  rw [record, hafter, List.filter_cons_of_neg (by simpa using h)]

theorem heeded_cons_of_not (h : ¬ (t.answer input).isRefused) (inputs : List Input) :
    t.heeded (input :: inputs) = (input, t.answer input) :: (t.after input).heeded inputs := by
  unfold heeded
  rw [record, List.filter_cons_of_pos (by simpa using h)]

/-- The inputs that were not refused are given the same answers when they come alone. -/
theorem record_heeded (t : Timeline) (inputs : List Input) :
    t.record ((t.heeded inputs).map Prod.fst) = t.heeded inputs := by
  induction inputs generalizing t with
  | nil => rfl
  | cons input inputs ih =>
    by_cases h : (t.answer input).isRefused
    · rw [heeded_cons_of_refused h]
      exact ih t
    · rw [heeded_cons_of_not h, List.map_cons, record, ih]

/-- They lead to the same timeline. -/
theorem afterAll_heeded (t : Timeline) (inputs : List Input) :
    t.afterAll ((t.heeded inputs).map Prod.fst) = t.afterAll inputs := by
  induction inputs generalizing t with
  | nil => rfl
  | cons input inputs ih =>
    have hcons : t.afterAll (input :: inputs) = (t.after input).afterAll inputs := rfl
    by_cases h : (t.answer input).isRefused
    · rw [heeded_cons_of_refused h, hcons, after_of_refused h]
      exact ih t
    · rw [heeded_cons_of_not h, List.map_cons, hcons]
      exact ih (t.after input)

/-- Nothing is shown of a refused input. -/
theorem changes_heeded (t : Timeline) (inputs : List Input) :
    changes (t.heeded inputs) = changes (t.record inputs) := by
  unfold changes heeded
  rw [List.filterMap_filter]
  congr 1
  funext p
  obtain ⟨input, answer⟩ := p
  cases answer <;> rfl

/-! ## Tags -/

theorem number_le_after (t : Timeline) (input : Input) :
    t.generation.number ≤ (t.after input).generation.number := by
  cases input with
  | begin => exact Nat.le_succ _
  | reset g candles =>
    rw [after]
    split
    · next h =>
      obtain ⟨-, rfl, -⟩ := reset_ok h
      exact Nat.le_refl _
    · exact Nat.le_refl _
  | follow g event =>
    rw [after]
    split
    · next h => exact Nat.le_of_eq (congrArg _ (follow_generation h).symm)
    · exact Nat.le_refl _

theorem number_le_afterAll (t : Timeline) (inputs : List Input) :
    t.generation.number ≤ (t.afterAll inputs).generation.number := by
  induction inputs generalizing t with
  | nil => exact Nat.le_refl _
  | cons input inputs ih => exact Nat.le_trans (number_le_after t input) (ih (t.after input))

/-- Once a generation has begun, none of the tags before is the present one, whatever follows. -/
theorem number_lt_of_begin (t : Timeline) (before since : List Input) :
    (t.afterAll before).generation.number <
      (t.afterAll (before ++ .begin :: since)).generation.number := by
  rw [afterAll_append]
  exact number_le_afterAll (t.afterAll before).begin since

theorem generation_of_tag? {g : Generation} (h : (t.answer input).tag? = some g) :
    (t.after input).generation = g := by
  cases input with
  | begin => exact Option.some.inj h
  | reset g' candles =>
    rw [answer] at h
    cases hr : t.reset g' candles <;> rw [hr] at h <;> cases h
  | follow g' event =>
    rw [answer] at h
    cases hf : t.follow g' event <;> rw [hf] at h <;> cases h

/-- A tag that was given out is that of the present generation, or of an earlier one. -/
theorem number_le_of_issued {g : Generation} {inputs : List Input} (h : g ∈ t.issued inputs) :
    g.number ≤ (t.afterAll inputs).generation.number := by
  induction inputs generalizing t with
  | nil =>
    rw [List.mem_singleton.mp h]
    exact Nat.le_refl _
  | cons input inputs ih =>
    rcases List.mem_cons.mp h with rfl | h
    · exact number_le_afterAll t (input :: inputs)
    · refine ih ?_
      obtain ⟨p, hp, htag⟩ := List.mem_filterMap.mp h
      rcases List.mem_cons.mp hp with rfl | hp
      · exact List.mem_cons.mpr (.inl (generation_of_tag? htag).symm)
      · exact List.mem_cons_of_mem _ (List.mem_filterMap.mpr ⟨p, hp, htag⟩)

/-- What was made for another generation than the present one is refused as stale. -/
theorem refuses_of_ne {g : Generation} (h : g ≠ t.generation) (candles : List Candle)
    (event : CandleEvent) :
    t.answer (.reset g candles) = .refused (.stale g t.generation) ∧
      t.answer (.follow g event) = .refused (.stale g t.generation) := by
  simp only [answer, reset, follow, if_neg h]
  exact ⟨rfl, rfl⟩

/-! ## Every run -/

/-- **Refused inputs leave no trace, and old tags stay dead.** In every run, the inputs that were
not refused would have been given the same answers without the others, and would have led to the
same timeline, shown in the same way. And whatever is tagged with a tag that was given out before
the latest beginning of a generation is refused as stale. -/
theorem refused_without_trace (inputs : List Input) :
    (initial.record ((initial.heeded inputs).map Prod.fst) = initial.heeded inputs ∧
      initial.afterAll ((initial.heeded inputs).map Prod.fst) = initial.afterAll inputs ∧
      ∀ d : Display, d.afterAll (changes (initial.heeded inputs)) =
        d.afterAll (changes (initial.record inputs))) ∧
    ∀ before since, inputs = before ++ .begin :: since → ∀ g ∈ initial.issued before,
      ∀ candles event,
        (initial.afterAll inputs).answer (.reset g candles) =
            .refused (.stale g (initial.afterAll inputs).generation) ∧
          (initial.afterAll inputs).answer (.follow g event) =
            .refused (.stale g (initial.afterAll inputs).generation) := by
  refine ⟨⟨record_heeded initial inputs, afterAll_heeded initial inputs, fun d => ?_⟩, ?_⟩
  · rw [changes_heeded]
  · rintro before since rfl g hg candles event
    have hle := number_le_of_issued hg
    have hlt := number_lt_of_begin initial before since
    refine refuses_of_ne (fun heq => ?_) candles event
    rw [heq] at hle
    omega

end Timeline

end TickChart
