import Mathlib.Data.List.Induction
import TickChart.Market.Tick
import TickChart.Proofs.Series

/-!
# Accepted ticks

A selection takes up the ticks of its symbol as long as they do not fall behind: a tick is accepted
when no earlier tick of the symbol is of a later bucket. This says nothing of candles: it is a
property of the ticks and their order.

* `Tick.Accepted`, `accepted`: an accepted tick, and all of them in their order.
* `acceptedIn`: the accepted ticks of one bucket.
* `liveBuckets`: the buckets of accepted ticks, ascending.
* `accepted_iff`: it is enough to look back at the accepted ticks.
* `liveBuckets_first`, `liveBuckets_again`: an accepted tick is of a new last bucket, or of the
  last.
-/

namespace TickChart

/-- The bucket of a tick. -/
def Tick.bucket (t : Tick) (f : Timeframe) : Int := f.bucketStart t.time.seconds

/-- The tick is of the symbol, and no earlier tick of the symbol is of a later bucket. -/
def Tick.Accepted (s : Selection) (earlier : List Tick) (t : Tick) : Prop :=
  t.symbol = s.symbol ∧
    ∀ u ∈ earlier, u.symbol = s.symbol → u.bucket s.timeframe ≤ t.bucket s.timeframe

instance (s : Selection) (earlier : List Tick) (t : Tick) : Decidable (t.Accepted s earlier) :=
  inferInstanceAs (Decidable (t.symbol = s.symbol ∧
    ∀ u ∈ earlier, u.symbol = s.symbol → u.bucket s.timeframe ≤ t.bucket s.timeframe))

/-- The accepted ones of `ticks`, which come after `earlier`. -/
def acceptedAfter (s : Selection) (earlier : List Tick) : List Tick → List Tick
  | [] => []
  | t :: ticks =>
    if t.Accepted s earlier then t :: acceptedAfter s (earlier ++ [t]) ticks
    else acceptedAfter s (earlier ++ [t]) ticks

/-- The accepted ticks. -/
def accepted (s : Selection) (ticks : List Tick) : List Tick := acceptedAfter s [] ticks

/-- The accepted ticks of a bucket. -/
def acceptedIn (s : Selection) (bucket : Int) (ticks : List Tick) : List Tick :=
  (accepted s ticks).filter fun t => t.bucket s.timeframe = bucket

/-- The buckets of accepted ticks, ascending and each once. -/
def liveBuckets (s : Selection) (ticks : List Tick) : List Int :=
  Keyed.ofList id ((accepted s ticks).map fun t => t.bucket s.timeframe)

variable {s : Selection} {ticks earlier more : List Tick} {t u : Tick} {b : Int}

theorem acceptedAfter_append :
    acceptedAfter s earlier (ticks ++ more) =
      acceptedAfter s earlier ticks ++ acceptedAfter s (earlier ++ ticks) more := by
  induction ticks generalizing earlier with
  | nil => simp [acceptedAfter]
  | cons t ticks ih =>
    rw [List.cons_append, acceptedAfter, acceptedAfter, ih, List.append_assoc,
      List.singleton_append]
    split <;> rfl

theorem accepted_concat :
    accepted s (ticks ++ [t]) =
      if t.Accepted s ticks then accepted s ticks ++ [t] else accepted s ticks := by
  simp only [accepted, acceptedAfter_append, List.nil_append, acceptedAfter]
  split <;> simp

theorem symbol_of_mem_accepted (h : t ∈ accepted s ticks) : t ∈ ticks ∧ t.symbol = s.symbol := by
  induction ticks using List.reverseRecOn with
  | nil => cases h
  | append_singleton ticks u ih =>
    rw [accepted_concat] at h
    split at h
    · next hu =>
      rcases List.mem_append.mp h with h | h
      · exact (ih h).imp_left (List.mem_append_left _)
      · rw [List.mem_singleton.mp h]
        exact ⟨List.mem_append_right _ List.mem_cons_self, hu.1⟩
    · exact (ih h).imp_left (List.mem_append_left _)

/-- No tick of the symbol is of a later bucket than all accepted ones. -/
theorem exists_accepted_ge (h : t ∈ ticks) (hs : t.symbol = s.symbol) :
    ∃ u ∈ accepted s ticks, t.bucket s.timeframe ≤ u.bucket s.timeframe := by
  induction ticks using List.reverseRecOn generalizing t with
  | nil => cases h
  | append_singleton ticks v ih =>
    rw [accepted_concat]
    rcases List.mem_append.mp h with h | h
    · obtain ⟨u, hu, hle⟩ := ih h hs
      refine ⟨u, ?_, hle⟩
      split
      · exact List.mem_append_left _ hu
      · exact hu
    · obtain rfl := List.mem_singleton.mp h
      by_cases ha : t.Accepted s ticks
      · rw [if_pos ha]
        exact ⟨t, List.mem_append_right _ List.mem_cons_self, Int.le_refl _⟩
      · -- What kept `t` from being accepted is of a later bucket.
        rw [if_neg ha]
        obtain ⟨v, hv, hvs, hlt⟩ : ∃ v ∈ ticks, v.symbol = s.symbol ∧
            t.bucket s.timeframe < v.bucket s.timeframe := by
          by_contra hno
          exact ha ⟨hs, fun v hv hvs => Int.not_lt.mp fun hlt => hno ⟨v, hv, hvs, hlt⟩⟩
        obtain ⟨u, hu, hle⟩ := ih hv hvs
        exact ⟨u, hu, Int.le_trans (Int.le_of_lt hlt) hle⟩

/-- Whether a tick is accepted depends on the accepted ones before it only. -/
theorem accepted_iff :
    t.Accepted s ticks ↔ t.symbol = s.symbol ∧
      ∀ u ∈ accepted s ticks, u.bucket s.timeframe ≤ t.bucket s.timeframe := by
  constructor
  · intro h
    refine ⟨h.1, fun u hu => ?_⟩
    obtain ⟨hmem, hs⟩ := symbol_of_mem_accepted hu
    exact h.2 u hmem hs
  · rintro ⟨hs, h⟩
    refine ⟨hs, fun v hv hvs => ?_⟩
    obtain ⟨u, hu, hle⟩ := exists_accepted_ge hv hvs
    exact Int.le_trans hle (h u hu)

/-! ## One bucket -/

theorem mem_acceptedIn :
    t ∈ acceptedIn s b ticks ↔ t ∈ accepted s ticks ∧ t.bucket s.timeframe = b := by
  simp [acceptedIn]

/-- An accepted tick comes behind the ticks of its bucket, and is in no other bucket. -/
theorem acceptedIn_concat (h : t.Accepted s ticks) :
    acceptedIn s b (ticks ++ [t]) =
      if t.bucket s.timeframe = b then acceptedIn s b ticks ++ [t] else acceptedIn s b ticks := by
  simp only [acceptedIn, accepted_concat, if_pos h, List.filter_append]
  split <;> simp_all

theorem acceptedIn_concat_of_not (h : ¬ t.Accepted s ticks) :
    acceptedIn s b (ticks ++ [t]) = acceptedIn s b ticks := by
  simp only [acceptedIn, accepted_concat, if_neg h]

/-- More ticks only add to a bucket. -/
theorem acceptedIn_prefix : acceptedIn s b ticks <+: acceptedIn s b (ticks ++ more) := by
  simp only [acceptedIn, accepted, acceptedAfter_append, List.filter_append]
  exact List.prefix_append _ _

/-! ## Buckets -/

theorem mem_liveBuckets : b ∈ liveBuckets s ticks ↔ acceptedIn s b ticks ≠ [] := by
  rw [liveBuckets, Keyed.mem_ofList_id, List.mem_map, ne_eq, List.eq_nil_iff_forall_not_mem]
  simp only [mem_acceptedIn]
  grind

theorem ascending_liveBuckets : (liveBuckets s ticks).Pairwise (· < ·) := by
  show Keyed.Ascending id (liveBuckets s ticks)
  exact Keyed.ascending_ofList

theorem liveBuckets_concat_of_not (h : ¬ t.Accepted s ticks) :
    liveBuckets s (ticks ++ [t]) = liveBuckets s ticks := by
  simp only [liveBuckets, accepted_concat, if_neg h]

theorem le_of_mem_liveBuckets (h : t.Accepted s ticks) (hb : b ∈ liveBuckets s ticks) :
    b ≤ t.bucket s.timeframe := by
  obtain ⟨u, hu⟩ := List.exists_mem_of_ne_nil _ (mem_liveBuckets.mp hb)
  obtain ⟨hacc, rfl⟩ := mem_acceptedIn.mp hu
  exact (accepted_iff.mp h).2 u hacc

/-- The first accepted tick of its bucket: the bucket is after all others. -/
theorem liveBuckets_first (h : t.Accepted s ticks)
    (hf : acceptedIn s (t.bucket s.timeframe) ticks = []) :
    (∀ b ∈ liveBuckets s ticks, b < t.bucket s.timeframe) ∧
      liveBuckets s (ticks ++ [t]) = liveBuckets s ticks ++ [t.bucket s.timeframe] := by
  have hlt : ∀ b ∈ liveBuckets s ticks, b < t.bucket s.timeframe := by
    intro b hb
    refine lt_of_le_of_ne (le_of_mem_liveBuckets h hb) ?_
    rintro rfl
    exact mem_liveBuckets.mp hb hf
  refine ⟨hlt, ?_⟩
  simp only [liveBuckets, accepted_concat, if_pos h, List.map_append, List.map_cons, List.map_nil,
    Keyed.ofList_concat]
  exact Keyed.put_of_above hlt

/-- Another accepted tick of its bucket: the bucket is the last one. -/
theorem liveBuckets_again (h : t.Accepted s ticks)
    (ha : acceptedIn s (t.bucket s.timeframe) ticks ≠ []) :
    ∃ front, liveBuckets s ticks = front ++ [t.bucket s.timeframe] ∧
      liveBuckets s (ticks ++ [t]) = front ++ [t.bucket s.timeframe] := by
  have hmem := mem_liveBuckets.mpr ha
  have hasc : Keyed.Ascending id (liveBuckets s ticks) := ascending_liveBuckets
  obtain ⟨front, hfront⟩ := hasc.eq_concat hmem
    fun b hb => Int.not_lt.mpr (le_of_mem_liveBuckets h hb)
  refine ⟨front, hfront, hfront ▸ ?_⟩
  simp only [liveBuckets, accepted_concat, if_pos h, List.map_append, List.map_cons, List.map_nil,
    Keyed.ofList_concat]
  exact Keyed.put_of_mem hasc hmem

end TickChart
