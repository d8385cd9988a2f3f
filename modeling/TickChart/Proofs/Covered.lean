import TickChart.Proofs.Merge
import TickChart.Proofs.Refusal
import TickChart.Proofs.Requests

/-!
# What a history covers

An engine keeps silent about a live candle that its timeline refuses. Nothing is lost by that: the
only candles that are refused are those of buckets that a history of the same generation has, or has
passed.

* `Engine.asks`: what the handling of an input asks of the timeline. `handle_asks`: that is all that
  becomes of the timeline, and what is accepted is what is shown.
* `Aggregator.Reported`: the buckets of what an aggregator reports.
* `Engine.LastLoaded`: a last bucket among the histories that a generation was given.
* `Engine.Sound`: session, aggregator and series fit together. `Sound.onTick` and `Sound.onHistory`
  keep it, and every start restores it.
* `Refusal.Covered`, `no_candle_lost`: what is refused of a tick, after every run; and of a history
  nothing is.
-/

namespace TickChart

/-! ## What is asked of the timeline -/

/-- The call shows something of the series. -/
def SurfaceCall.ofSeries : SurfaceCall → Bool
  | .replaceAll _ | .upsertLast _ => true
  | .loadState _ _ | .ticker _ | .overlay _ | .overlayError _ _ => false

namespace Timeline

theorem ofSeries_changes (record : List (Input × Answer)) :
    (changes record).filter (·.ofSeries) = changes record := by
  rw [List.filter_eq_self]
  intro call hcall
  obtain ⟨⟨input, answer⟩, -, hanswer⟩ := List.mem_filterMap.mp hcall
  cases answer with
  | began g => cases hanswer
  | refused refusal => cases hanswer
  | changed change =>
    cases hanswer
    cases change <;> rfl

/-- Candles that all open a bucket, from the first to the last. -/
def opening (g : Generation) (live : List Candle) : List Input :=
  live.map fun c => .follow g (.opened c)

variable {t : Timeline} {live : List Candle}

/-- Candles that ascend behind the series are all accepted. -/
theorem record_opening (h : Series.Ascending (t.series ++ live)) :
    t.record (opening t.generation live) =
      live.map fun c => (.follow t.generation (.opened c), .changed (.upsertLast c)) := by
  induction live generalizing t with
  | nil => rfl
  | cons c live ih =>
    rw [List.append_cons] at h
    have hbehind := Series.ascending_concat.mp (h.sublist (List.sublist_append_left _ live))
    have hlast : ∀ b, Series.lastBucket? t.series = some b → b < c.bucketStart := by
      intro b hb
      obtain ⟨front, d, hd, rfl⟩ := Series.lastBucket?_eq_some_iff.mp hb
      exact hbehind.2 d (by simp [hd])
    have hrest := ih (t := ⟨t.generation, t.series ++ [c]⟩) h
    simp only [opening, List.map_cons, record, answer, follow_opened hlast, after_opened hlast]
    exact congrArg (_ :: ·) hrest

end Timeline

namespace Engine

open Timeline (opening changes)

variable {e next : Engine} {input : Input} {orders : List Order} {g : Generation} {t : Tick}
  {s : Session}

/-- What a tick asks of the timeline: to follow what the aggregator of the session reports. -/
def tickAsks (e : Engine) (t : Tick) : List Timeline.Input :=
  match e.session with
  | none => []
  | some s =>
    match s.aggregator.apply t with
    | .ok (_, some event) => [.follow s.generation event]
    | .ok (_, none) | .error _ => []

/-- What a history asks of the timeline, if it is of the present generation: to take its candles,
and to open the later ones of the live candles behind them. -/
def historyAsks (e : Engine) (g : Generation) : HistoryResult → List Timeline.Input
  | .ok (.loaded candles) =>
    if g = e.timeline.generation then
      .reset g candles :: opening g (newerThan (Series.ofCandles candles) e.timeline.series)
    else []
  | .ok .noData | .error _ => []

/-- What the handling of an input asks of the timeline, in order. -/
def asks (e : Engine) : Input → List Timeline.Input
  | .select _ _ => [.begin]
  | .retry _ => if e.selection.isSome then [.begin] else []
  | .history g _ result => e.historyAsks g result
  | .tick t => e.tickAsks t
  | .indicators _ _ | .timer _ => []

/-- Opened one by one, candles are all asked of the timeline, and those that it takes are shown. -/
theorem replay_asks (timeline : Timeline) (live : List Candle) :
    replay timeline live = (timeline.afterAll (opening timeline.generation live),
      changes (timeline.record (opening timeline.generation live))) := by
  induction live generalizing timeline with
  | nil => rfl
  | cons c live ih =>
    simp only [replay, opening, List.map_cons, Timeline.afterAll, List.foldl_cons, Timeline.after,
      Timeline.record, Timeline.answer]
    cases hf : timeline.follow timeline.generation (.opened c) with
    | error refusal => exact ih timeline
    | ok result =>
      obtain ⟨grown, change⟩ := result
      simp only [ih grown, Timeline.follow_generation hf]
      rfl

theorem onHistory_asks (e : Engine) (g : Generation) (selection : Selection)
    (result : HistoryResult) :
    (e.onHistory g selection result).1.timeline = e.timeline.afterAll (e.historyAsks g result) ∧
      (calls (e.onHistory g selection result).2).filter (·.ofSeries) =
        changes (e.timeline.record (e.historyAsks g result)) := by
  by_cases hg : g = e.timeline.generation
  · subst hg
    rcases result with error | ⟨candles⟩ | _
    · simp only [onHistory, ne_eq, not_true_eq_false, ↓reduceIte]
      exact ⟨rfl, rfl⟩
    · obtain ⟨hstate, hcalls⟩ := onHistory_loaded e selection candles
      rw [hstate, hcalls, replay_asks]
      simp only [historyAsks, ↓reduceIte, Timeline.record, Timeline.answer, Timeline.afterAll,
        List.foldl_cons, Timeline.after, Timeline.reset]
      refine ⟨trivial, ?_⟩
      exact congrArg (SurfaceCall.replaceAll (Series.ofCandles candles) :: ·)
        (Timeline.ofSeries_changes _)
    · simp only [onHistory, ne_eq, not_true_eq_false, ↓reduceIte]
      exact ⟨rfl, rfl⟩
  · rw [onHistory_stale hg]
    rcases result with error | ⟨candles⟩ | _
    · exact ⟨rfl, rfl⟩
    · simp only [historyAsks, if_neg hg]
      exact ⟨rfl, rfl⟩
    · exact ⟨rfl, rfl⟩

theorem onTick_asks (h : (e.onTick t).1 = .ok next) :
    next.timeline = e.timeline.afterAll (e.tickAsks t) ∧
      (calls (e.onTick t).2).filter (·.ofSeries) = changes (e.timeline.record (e.tickAsks t)) := by
  cases hs : e.session with
  | none =>
    simp only [onTick, hs] at h ⊢
    cases h
    simp only [tickAsks, hs]
    exact ⟨rfl, rfl⟩
  | some s =>
    cases ha : s.aggregator.apply t with
    | error fault =>
      simp only [onTick, hs, ha] at h
      cases h
    | ok report =>
      obtain ⟨aggregator, event⟩ := report
      cases event with
      -- A tick that the aggregator ignores asks nothing of the timeline.
      | none =>
        simp only [onTick, hs, ha, followTick] at h ⊢
        cases h
        simp only [tickAsks, hs, ha]
        exact ⟨rfl, rfl⟩
      | some event =>
        simp only [onTick, hs, ha, followTick] at h ⊢
        simp only [tickAsks, hs, ha, Timeline.record, Timeline.answer, Timeline.afterAll,
          List.foldl_cons, Timeline.after, List.foldl_nil]
        cases hf : e.timeline.follow s.generation event with
        -- What it refuses leaves it as it is, and is not shown.
        | error refusal =>
          simp only [hf] at h ⊢
          cases h
          exact ⟨rfl, rfl⟩
        | ok result =>
          obtain ⟨timeline, change⟩ := result
          simp only [hf] at h ⊢
          cases h
          refine ⟨rfl, ?_⟩
          cases change <;> rfl

/-- What becomes of the timeline is what it is asked, and nothing else. Of what it is asked in a
session, that which it accepts is shown. -/
theorem handle_asks (h : e.handle input = (.ok next, orders)) :
    next.timeline = e.timeline.afterAll (e.asks input) ∧
      (e.startedBy input = none →
        (calls orders).filter (·.ofSeries) = changes (e.timeline.record (e.asks input))) := by
  cases hstarted : e.startedBy input with
  -- A start asks for a new generation, which is not one of a session.
  | some selection =>
    obtain ⟨poll, polls, aside, heq, -⟩ := handle_of_started h hstarted
    cases heq
    refine ⟨?_, fun hnone => nomatch hnone⟩
    cases input with
    | select selection' underway => rfl
    | retry underway =>
      have hselection : e.selection = some selection := hstarted
      simp only [asks, hselection]
      rfl
    | _ => cases hstarted
  | none =>
    cases input with
    | select selection underway => cases hstarted
    | retry underway =>
      have hselection : e.selection = none := hstarted
      simp only [handle, retry, hselection] at h
      cases h
      simp only [asks, hselection]
      exact ⟨rfl, fun _ => rfl⟩
    | history g selection result =>
      obtain ⟨htimeline, hcalls⟩ := onHistory_asks e g selection result
      cases h
      exact ⟨htimeline, fun _ => hcalls⟩
    | tick t =>
      have hnext : (e.onTick t).1 = .ok next := congrArg Prod.fst h
      have horders : (e.onTick t).2 = orders := congrArg Prod.snd h
      obtain ⟨htimeline, hcalls⟩ := onTick_asks hnext
      rw [horders] at hcalls
      exact ⟨htimeline, fun _ => hcalls⟩
    -- Indicators and the timer ask nothing, and make no call that shows a candle.
    | indicators symbol result =>
      cases h
      refine ⟨rfl, fun _ => ?_⟩
      simp only [onIndicators]
      split
      · cases result <;> rfl
      · rfl
    | timer underway =>
      cases h
      refine ⟨(startPoll_frame e false underway).1, fun _ => ?_⟩
      rw [onTimer, calls_startPoll]
      rfl

end Engine

/-! ## Buckets -/

/-- What an aggregator reports of a tick: the candle of its bucket, which is the open one from then
on. It was so before if the bucket is updated, and if it is opened, the open one was before it. -/
structure Aggregator.Reported (a b : Aggregator) (t : Tick) (event : CandleEvent) : Prop where
  current : b.current = some event.candle
  bucket : event.candle.bucketStart = a.bucketOf t
  opened : event = .opened event.candle → ∀ c, a.current = some c → c.bucketStart < a.bucketOf t
  updated : event = .updated event.candle → ∃ c, a.current = some c ∧ c.bucketStart = a.bucketOf t

theorem Aggregator.reported_of_apply {a b : Aggregator} {t : Tick} {event : CandleEvent}
    (h : a.apply t = .ok (b, some event)) : Reported a b t event := by
  rcases apply_ok h with ⟨hnone, -⟩ | ⟨hevent, rfl⟩ | ⟨c, grown, hc, hb, habsorb, hevent, rfl⟩
  · cases hnone
  · cases hevent
    refine ⟨rfl, rfl, fun _ c hc => ?_, fun hupdated => nomatch hupdated⟩
    -- A tick that is not after the open candle would not have opened its bucket.
    have honly : ∀ answer, a.apply t = .ok answer →
        answer.2 = some (.opened (.openAt (a.bucketOf t) t.price t.size)) := by
      intro answer hanswer
      rw [h] at hanswer
      cases hanswer
      rfl
    by_contra hle
    by_cases hsymbol : t.symbol = a.symbol
    · rcases Int.lt_or_eq_of_le (Int.not_lt.mp hle) with hlate | hsame
      · cases honly _ (apply_of_late hc hlate)
      · have hsum := apply_of_same hsymbol hc hsame
        cases habsorb : c.absorb t.price t.size with
        | error fault => rw [h, habsorb] at hsum; cases hsum
        | ok grown => rw [habsorb] at hsum; cases honly _ hsum
    · cases honly _ (apply_of_symbol_ne hsymbol)
  · cases hevent
    obtain ⟨volume, -, rfl⟩ := Candle.absorb_ok habsorb
    refine ⟨rfl, hb.symm, ?_, fun _ => ⟨c, hc, hb.symm⟩⟩
    intro hopened
    cases hopened

namespace Series

variable {series live : List Candle} {c : Candle} {b last : Int}

theorem Ascending.exists_lastBucket (h : Ascending series) (hc : c ∈ series) :
    ∃ last, lastBucket? series = some last ∧ c.bucketStart ≤ last := by
  cases hlast : lastBucket? series with
  | none => rw [lastBucket?_eq_none_iff.mp hlast] at hc; cases hc
  | some last => exact ⟨last, rfl, h.le_lastBucket hlast hc⟩

open Engine (newerThan ascending_newerThan)

/-- With the later ones of the live candles behind it, a series reaches as far as they do. -/
theorem le_lastBucket_newerThan (hs : Ascending series) (hl : Ascending live)
    (hb : lastBucket? live = some b) :
    ∃ last, lastBucket? (series ++ newerThan series live) = some last ∧ b ≤ last := by
  have hasc := ascending_newerThan hs hl
  obtain ⟨front, c, rfl, rfl⟩ := lastBucket?_eq_some_iff.mp hb
  cases hlast : lastBucket? series with
  | none => exact hasc.exists_lastBucket (by simp [newerThan, hlast])
  | some last =>
    by_cases hlater : last < c.bucketStart
    · exact hasc.exists_lastBucket (by simp [newerThan, hlast, hlater])
    · obtain ⟨rest, d, rfl, rfl⟩ := lastBucket?_eq_some_iff.mp hlast
      obtain ⟨last, hsome, hle⟩ := hasc.exists_lastBucket (c := d) (by simp)
      exact ⟨last, hsome, by omega⟩

/-- It reaches as far as the series did, or as the live candles do. -/
theorem lastBucket_newerThan (hl : Ascending live)
    (h : lastBucket? (series ++ newerThan series live) = some last) :
    lastBucket? series = some last ∨ lastBucket? live = some last := by
  rcases (newerThan series live).eq_nil_or_concat' with hnil | ⟨front, c, hnewer⟩
  · rw [hnil, List.append_nil] at h
    exact .inl h
  · rw [hnewer, ← List.append_assoc, lastBucket?_concat, Option.some.injEq] at h
    subst h
    have hsub : (newerThan series live).Sublist live := by
      unfold newerThan
      split
      · exact List.filter_sublist
      · exact List.Sublist.refl live
    have hc : c ∈ newerThan series live := by simp [hnewer]
    obtain ⟨b, hb, hle⟩ := hl.exists_lastBucket (hsub.subset hc)
    obtain ⟨rest, d, hlive, rfl⟩ := lastBucket?_eq_some_iff.mp hb
    -- The last live candle is not before `c`, so it is later than the series, too.
    have hd : d ∈ newerThan series live := by
      unfold newerThan at hc ⊢
      split at hc
      · have hlater := of_decide_eq_true (List.mem_filter.mp hc).2
        exact List.mem_filter.mpr ⟨by simp [hlive], by simp; omega⟩
      · simp [hlive]
    have hasc : Ascending (front ++ [c]) := hnewer ▸ hl.sublist hsub
    have hge : d.bucketStart ≤ c.bucketStart :=
      hasc.le_lastBucket lastBucket?_concat (hnewer ▸ hd)
    exact .inr (hb.trans (congrArg some (Int.le_antisymm hge hle)))

end Series

/-! ## Session, aggregator and series -/

/-- The refusal of a candle of a tick's bucket is one that `loaded` accounts for: it names a loaded
bucket that is not before that of the tick, and when it is an update that was refused, one after
it. -/
def Refusal.Covered (loaded : Int → Prop) (bucket : Int) : Refusal → Prop
  | .stale _ _ => False
  | .outOfOrder opened last => opened = bucket ∧ loaded last ∧ bucket ≤ last
  | .bucketMismatch updated (some last) => updated = bucket ∧ loaded last ∧ bucket < last
  | .bucketMismatch _ none => False

namespace Engine

open Timeline (changes)

variable {e next : Engine} {input : Input} {inputs : List Input} {orders : List Order}
  {g : Generation} {t : Tick} {s : Session} {loaded more : Int → Prop} {event : CandleEvent}
  {aggregator : Aggregator} {refusal : Refusal} {timeline : Timeline} {change : SeriesChange}

/-- What keeps a live candle from being lost. The last bucket of the series is that of the open
candle or a loaded one, and not before that of the open candle. -/
structure Sound (loaded : Int → Prop) (e : Engine) : Prop where
  ascending : Series.Ascending e.timeline.series
  session : ∀ s, e.session = some s → s.generation = e.timeline.generation ∧
    e.selection = some s.selection ∧ s.aggregator.symbol = s.selection.symbol ∧
      s.aggregator.timeframe = s.selection.timeframe
  current : ∀ s, e.session = some s → ∀ c, s.aggregator.current = some c →
    ∃ last, Series.lastBucket? e.timeline.series = some last ∧ c.bucketStart ≤ last
  last : ∀ b, Series.lastBucket? e.timeline.series = some b → loaded b ∨
    ∃ s c, e.session = some s ∧ s.aggregator.current = some c ∧ c.bucketStart = b

/-- More may count as loaded. -/
theorem Sound.mono (h : Sound loaded e) (hmore : ∀ b, loaded b → more b) : Sound more e :=
  ⟨h.ascending, h.session, h.current, fun b hb => (h.last b hb).imp_left (hmore b)⟩

theorem sound_initial : Sound loaded initial where
  ascending := Series.ascending_nil
  session _ hs := nomatch hs
  current _ hs := nomatch hs
  last _ hb := nomatch hb

/-- Whatever was before, a start leaves nothing that could be lost. -/
theorem sound_start (e : Engine) (selection : Selection) (poll : Option Nat) (polls : Nat) :
    Sound loaded { (e.start selection).1 with poll, polls } where
  ascending := Series.ascending_nil
  session _ hs := by
    cases hs
    exact ⟨rfl, rfl, rfl, rfl⟩
  current _ hs _ hc := by
    cases hs
    cases hc
  last _ hb := nomatch hb

/-- What a timeline refuses of a tick is covered: the last bucket of the series is a loaded one, and
not before that of the tick. -/
theorem Sound.refused (h : Sound loaded e) (hs : e.session = some s)
    (ha : s.aggregator.apply t = .ok (aggregator, some event))
    (hf : e.timeline.follow s.generation event = .error refusal) :
    (∃ last, Series.lastBucket? e.timeline.series = some last ∧ loaded last ∧
        event.candle.bucketStart ≤ last) ∧
      refusal.Covered loaded (s.aggregator.bucketOf t) := by
  have hreport := Aggregator.reported_of_apply ha
  rcases Timeline.follow_error hf with ⟨hne, -⟩ | ⟨hopened, last, hlast, hle, rfl⟩ |
    ⟨hupdated, hne, rfl⟩
  · exact absurd (h.session s hs).1 hne
  · -- A bucket that is opened is after the open candle, so the last one is not that of the latter.
    have hloaded : loaded last := by
      refine (h.last last hlast).resolve_right ?_
      rintro ⟨s', c, hs', hc, rfl⟩
      cases hs.symm.trans hs'
      have hlt := hreport.opened hopened c hc
      rw [hreport.bucket] at hle
      omega
    exact ⟨⟨last, hlast, hloaded, hle⟩, hreport.bucket, hloaded, hreport.bucket ▸ hle⟩
  · -- A bucket that is updated is that of the open candle, and the last one is not.
    obtain ⟨c, hc, hb⟩ := hreport.updated hupdated
    obtain ⟨last, hlast, hle⟩ := h.current s hs c hc
    have hdiffers : last ≠ event.candle.bucketStart := fun heq => hne (heq ▸ hlast)
    rw [hb, ← hreport.bucket] at hle
    have hloaded : loaded last := by
      refine (h.last last hlast).resolve_right ?_
      rintro ⟨s', c', hs', hc', rfl⟩
      cases hs.symm.trans hs'
      cases hc.symm.trans hc'
      exact hdiffers (hb.trans hreport.bucket.symm)
    refine ⟨⟨last, hlast, hloaded, hle⟩, ?_⟩
    rw [hlast, ← hreport.bucket]
    exact ⟨rfl, hloaded, by omega⟩

/-- What the timeline accepts of a tick is its last candle from then on. -/
theorem lastBucket_of_follow (h : e.timeline.follow g event = .ok (timeline, change)) :
    Series.lastBucket? timeline.series = some event.candle.bucketStart := by
  obtain ⟨-, -, ⟨-, -, rfl⟩ | ⟨-, front, old, -, -, rfl⟩⟩ := Timeline.follow_ok h <;>
    exact Series.lastBucket?_concat

/-- A tick that the aggregator of the session reports, whether the timeline takes it or not. -/
theorem Sound.reported (h : Sound loaded e) (hs : e.session = some s)
    (ha : s.aggregator.apply t = .ok (aggregator, some event)) :
    Sound loaded { e with
      session := some { s with aggregator }
      timeline := e.timeline.afterEvent s.generation (some event) } := by
  obtain ⟨hgeneration, hselection, hsymbol, htimeframe⟩ := h.session s hs
  obtain ⟨hsymbol', htimeframe'⟩ := Aggregator.frame_of_apply ha
  have hcurrent := (Aggregator.reported_of_apply ha).current
  refine ⟨Timeline.after_ascending h.ascending _, fun _ hs' => ?_, fun _ hs' c hc => ?_,
    fun b hb => ?_⟩
  · cases hs'
    exact ⟨hgeneration.trans Timeline.afterEvent_generation.symm, hselection,
      hsymbol'.trans hsymbol, htimeframe'.trans htimeframe⟩
  · cases hs'
    obtain rfl := Option.some.inj (hcurrent.symm.trans hc)
    simp only [Timeline.afterEvent, Timeline.after]
    cases hf : e.timeline.follow s.generation event with
    | ok result => exact ⟨_, lastBucket_of_follow hf, Int.le_refl _⟩
    | error refusal =>
      obtain ⟨⟨last, hlast, -, hle⟩, -⟩ := h.refused hs ha hf
      exact ⟨last, hlast, hle⟩
  · simp only [Timeline.afterEvent, Timeline.after] at hb
    cases hf : e.timeline.follow s.generation event with
    | ok result =>
      rw [hf, lastBucket_of_follow hf] at hb
      exact .inr ⟨_, _, rfl, hcurrent, Option.some.inj hb⟩
    | error refusal =>
      obtain ⟨⟨last, hlast, hloaded, -⟩, -⟩ := h.refused hs ha hf
      rw [hf, hlast] at hb
      exact .inl (Option.some.inj hb ▸ hloaded)

/-- Ticks keep it. -/
theorem Sound.onTick (h : Sound loaded e) (hnext : (e.onTick t).1 = .ok next) :
    Sound loaded next := by
  cases hs : e.session with
  | none =>
    simp only [Engine.onTick, hs] at hnext
    cases hnext
    exact h
  | some s =>
    cases ha : s.aggregator.apply t with
    | error fault =>
      simp only [Engine.onTick, hs, ha] at hnext
      cases hnext
    | ok report =>
      obtain ⟨aggregator, event⟩ := report
      rw [onTick_eq hs ha] at hnext
      cases hnext
      cases event with
      | some event => exact h.reported hs ha
      | none =>
        rcases Aggregator.apply_ok ha with ⟨-, rfl⟩ | ⟨hevent, -⟩ | ⟨_, _, -, -, -, hevent, -⟩
        · have hsame : { e with session := some s } = e := by rw [← hs]
          exact hsame.symm ▸ h
        · cases hevent
        · cases hevent

/-- Histories keep it, if the last buckets of those that are taken count as loaded. -/
theorem Sound.onHistory (h : Sound loaded e) (hmore : ∀ b, loaded b → more b)
    {selection : Selection} {result : HistoryResult}
    (hresult : ∀ candles, result = .ok (.loaded candles) → g = e.timeline.generation →
      ∀ b, Series.lastBucket? (Series.ofCandles candles) = some b → more b) :
    Sound more (e.onHistory g selection result).1 := by
  have hweaker : Sound more e := h.mono hmore
  by_cases hg : g = e.timeline.generation
  · subst hg
    rcases result with error | ⟨candles⟩ | _
    · simpa only [Engine.onHistory, ne_eq, not_true_eq_false, ↓reduceIte] using hweaker
    · have hasc := ascending_newerThan (Series.ascending_ofCandles candles) h.ascending
      obtain ⟨hstate, -⟩ := onHistory_loaded e selection candles
      rw [hstate, replay_eq hasc]
      refine ⟨hasc, h.session, fun s hs c hc => ?_, fun b hb => ?_⟩
      · obtain ⟨last, hlast, hle⟩ := h.current s hs c hc
        obtain ⟨last', hlast', hle'⟩ :=
          Series.le_lastBucket_newerThan (Series.ascending_ofCandles candles) h.ascending hlast
        exact ⟨last', hlast', Int.le_trans hle hle'⟩
      · rcases Series.lastBucket_newerThan h.ascending hb with hloaded | hlive
        · exact .inl (hresult candles rfl rfl b hloaded)
        · exact hweaker.last b hlive
    · simpa only [Engine.onHistory, ne_eq, not_true_eq_false, ↓reduceIte] using hweaker
  · rw [onHistory_stale hg]
    exact hweaker

/-! ## Every run -/

/-- A history with these candles came in while the generation was the present one. -/
def Loaded (inputs : List Input) (g : Generation) (candles : List Candle) : Prop :=
  ∃ before selection after e orders,
    inputs = before ++ .history g selection (.ok (.loaded candles)) :: after ∧
      initial.run before = (.ok e, orders) ∧ e.timeline.generation = g

/-- The bucket is the last one of a history that came in while the generation was the present
one. -/
def LastLoaded (inputs : List Input) (g : Generation) (b : Int) : Prop :=
  ∃ candles, Loaded inputs g candles ∧
    Series.lastBucket? (Series.ofCandles candles) = some b

theorem LastLoaded.concat {b : Int} (h : LastLoaded inputs g b) (input : Input) :
    LastLoaded (inputs ++ [input]) g b := by
  obtain ⟨candles, ⟨before, selection, after, e, orders, rfl, hrun, hg⟩, hb⟩ := h
  exact ⟨candles, ⟨before, selection, after ++ [input], e, orders, by simp, hrun, hg⟩, hb⟩

theorem lastLoaded_concat {candles : List Candle} {selection : Selection} {b : Int}
    (hrun : initial.run inputs = (.ok e, orders))
    (hb : Series.lastBucket? (Series.ofCandles candles) = some b) :
    LastLoaded (inputs ++ [.history e.timeline.generation selection (.ok (.loaded candles))])
      e.timeline.generation b :=
  ⟨candles, ⟨inputs, selection, [], e, orders, rfl, hrun, rfl⟩, hb⟩

/-- One input more keeps it. -/
theorem sound_handle (h : Sound (LastLoaded inputs e.timeline.generation) e)
    (hrun : initial.run inputs = (.ok e, orders)) {more : List Order}
    (hnext : e.handle input = (.ok next, more)) :
    Sound (LastLoaded (inputs ++ [input]) next.timeline.generation) next := by
  cases hstarted : e.startedBy input with
  | some selection =>
    obtain ⟨poll, polls, aside, heq, -⟩ := handle_of_started hnext hstarted
    cases heq
    exact sound_start e selection poll polls
  | none =>
    rw [(handle_of_not_started hnext hstarted).1.generation]
    have hconcat : ∀ b, LastLoaded inputs e.timeline.generation b →
        LastLoaded (inputs ++ [input]) e.timeline.generation b := fun b hb => hb.concat input
    have hweaker : Sound (LastLoaded (inputs ++ [input]) e.timeline.generation) e :=
      h.mono hconcat
    -- Only a history makes more buckets loaded ones, and only a tick moves the open candle on.
    cases input with
    | select selection underway => cases hstarted
    | retry underway =>
      have hselection : e.selection = none := hstarted
      simp only [handle, retry, hselection] at hnext
      cases hnext
      exact hweaker
    | history g selection result =>
      cases hnext
      refine h.onHistory hconcat fun candles hresult hg b hb => ?_
      subst hresult hg
      exact lastLoaded_concat hrun hb
    | tick t => exact hweaker.onTick (congrArg Prod.fst hnext)
    | indicators symbol result =>
      cases hnext
      exact hweaker
    | timer underway =>
      cases hnext
      obtain ⟨poll, polls, hpoll, -⟩ := startPoll_eq e false underway
      rw [onTimer, hpoll]
      exact ⟨hweaker.ascending, hweaker.session, hweaker.current, hweaker.last⟩

theorem sound_run (hrun : initial.run inputs = (.ok e, orders)) :
    Sound (LastLoaded inputs e.timeline.generation) e := by
  induction inputs using List.reverseRecOn generalizing e orders with
  | nil =>
    cases hrun
    exact sound_initial
  | append_singleton inputs input ih =>
    obtain ⟨before, first, more, hbefore, hlast, -⟩ := run_concat_ok hrun
    exact sound_handle (ih hbefore) hbefore hlast

/-- What is refused of a tick is covered by what is loaded. -/
theorem Sound.tick_covered (h : Sound loaded e) (t : Tick) :
    ∀ p ∈ e.timeline.record (e.tickAsks t), ∀ refusal, p.2 = .refused refusal →
      ∃ s, e.session = some s ∧ refusal.Covered loaded (t.bucket s.selection.timeframe) := by
  intro p hp refusal hrefused
  simp only [tickAsks] at hp
  split at hp
  · cases hp
  · next s hs =>
    split at hp
    · next aggregator event ha =>
      obtain rfl := List.mem_singleton.mp hp
      have hbucket : s.aggregator.bucketOf t = t.bucket s.selection.timeframe := by
        rw [Aggregator.bucketOf, (h.session s hs).2.2.2]
        rfl
      cases hf : e.timeline.follow s.generation event with
      | ok result =>
        simp only [Timeline.answer, hf] at hrefused
        cases hrefused
      | error refusal' =>
        simp only [Timeline.answer, hf] at hrefused
        cases hrefused
        exact ⟨s, hs, hbucket ▸ (h.refused hs ha hf).2⟩
    · cases hp
    · cases hp

/-- Nothing that a history asks of the timeline is refused. -/
theorem Sound.history_accepted (h : Sound loaded e) (g : Generation) (result : HistoryResult) :
    ∀ p ∈ e.timeline.record (e.historyAsks g result), ¬ p.2.isRefused := by
  intro p hp
  rcases result with error | ⟨candles⟩ | _
  · cases hp
  · by_cases hg : g = e.timeline.generation
    · subst hg
      simp only [historyAsks, ↓reduceIte, Timeline.record, Timeline.answer, Timeline.after,
        Timeline.reset] at hp
      have hasc := ascending_newerThan (Series.ascending_ofCandles candles) h.ascending
      have hopening := Timeline.record_opening
        (t := ⟨e.timeline.generation, Series.ofCandles candles⟩) hasc
      rw [hopening] at hp
      rcases List.mem_cons.mp hp with rfl | hp
      · exact Bool.false_ne_true
      · obtain ⟨c, -, rfl⟩ := List.mem_map.mp hp
        exact Bool.false_ne_true
    · simp only [historyAsks, if_neg hg] at hp
      cases hp
  · cases hp

/-- The session, the aggregator and the series of an engine fit together, so that after `inputs` a
candle is refused only where a history of the present generation has its bucket or a later one. -/
structure Covers (inputs : List Input) (e : Engine) : Prop where
  /-- The session is of the present generation, and its aggregator of the present selection. -/
  session : ∀ s, e.session = some s → s.generation = e.timeline.generation ∧
    e.selection = some s.selection ∧ s.aggregator.symbol = s.selection.symbol ∧
      s.aggregator.timeframe = s.selection.timeframe
  /-- The series reaches as far as the open candle. -/
  current : ∀ s, e.session = some s → ∀ c, s.aggregator.current = some c →
    ∃ last, Series.lastBucket? e.timeline.series = some last ∧ c.bucketStart ≤ last
  /-- What is refused of a tick is covered by a history of this generation. -/
  tick : ∀ t, ∀ p ∈ e.timeline.record (e.asks (.tick t)), ∀ refusal, p.2 = .refused refusal →
    ∃ s, e.session = some s ∧
      refusal.Covered (LastLoaded inputs e.timeline.generation) (t.bucket s.selection.timeframe)
  /-- Nothing is refused of a history. -/
  history : ∀ g selection result,
    ∀ p ∈ e.timeline.record (e.asks (.history g selection result)), ¬ p.2.isRefused
  /-- What is asked of the timeline is all that becomes of it, and what it accepts is shown. -/
  shown : ∀ input next orders, e.handle input = (.ok next, orders) →
    next.timeline = e.timeline.afterAll (e.asks input) ∧
      (e.startedBy input = none →
        (calls orders).filter (·.ofSeries) = changes (e.timeline.record (e.asks input)))

/-- **No live candle is lost.** Whatever an engine has handled, its session, its aggregator and its
series fit together. Therefore the candle of a tick is refused only if a history of the present
generation has its bucket or a later one, and if it is an update, only if it has a later one; and
neither a history nor a candle that is put behind one is refused. -/
theorem no_candle_lost (h : initial.run inputs = (.ok e, orders)) : Covers inputs e where
  session := (sound_run h).session
  current := (sound_run h).current
  tick t := (sound_run h).tick_covered t
  history g _ result := (sound_run h).history_accepted g result
  shown _ _ _ hnext := handle_asks hnext

open Aggregator in
/-- A history comes in that is ahead of the tick before it: what the next tick of that bucket
updates is not in the series any more. -/
theorem no_candle_lost_ahead :
    let inputs : List Input := [.select byMinute false, .tick (purchase 1 0),
      .history ⟨1⟩ byMinute (.ok (.loaded [.openAt 60 .zero .zero]))]
    ∃ e orders, initial.run inputs = (.ok e, orders) ∧ Covers inputs e ∧
      (e.timeline.record (e.asks (.tick (purchase 1 0)))).map Prod.snd =
        [.refused (.bucketMismatch 0 (some 60))] :=
  ⟨_, _, rfl, no_candle_lost rfl, by decide +kernel⟩

end Engine

end TickChart
