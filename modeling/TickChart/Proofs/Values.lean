import Mathlib.Data.String.Basic
import TickChart.Json.Value
import TickChart.Proofs.Keyed

/-!
# Values as they are read

The members of an object ascend by name, in each object at any depth: no name comes twice, and no
two values differ only in the order of their members. Every value that is read of a text is of this
kind.

* `Value.Ordered`: the members of every object ascend by name.
* `Value.ordered_read?`: what a text holds is ordered.
* `Keyed.Ascending.lookup_eq_some_iff`: in ascending members a name is looked up to its only member.
-/

namespace TickChart

theorem Keyed.Ascending.lookup_eq_some_iff {β : Type} {ms : List (String × β)} {name : String}
    {b : β} (h : Keyed.Ascending Prod.fst ms) : ms.lookup name = some b ↔ (name, b) ∈ ms := by
  induction ms with
  | nil => simp
  | cons m rest ih =>
    obtain ⟨n, b'⟩ := m
    obtain ⟨hn, hrest⟩ := Keyed.ascending_cons.mp h
    rw [List.lookup_cons, List.mem_cons, Prod.mk.injEq]
    by_cases hname : name = n
    · subst hname
      have hnot : (name, b) ∉ rest := fun hmem => lt_irrefl name (hn _ hmem)
      simp [hnot, eq_comm]
    · rw [beq_eq_false_iff_ne.mpr hname]
      simp [hname, ih hrest]

namespace Json

namespace Value

/-- The members of every object ascend by name. -/
inductive Ordered : Value → Prop where
  | null : Ordered .null
  | bool (b : Bool) : Ordered (.bool b)
  | number (n : Number) : Ordered (.number n)
  | string (s : String) : Ordered (.string s)
  | array {vs : List Value} (hitems : ∀ v ∈ vs, Ordered v) : Ordered (.array vs)
  | object {ms : List (String × Value)} (hnames : Keyed.Ascending Prod.fst ms)
      (hmembers : ∀ m ∈ ms, Ordered m.2) : Ordered (.object ms)

variable {v : Value} {vs : List Value} {ms : List (String × Value)} {name : String}

theorem Ordered.cons (hv : v.Ordered) (hvs : (Value.array vs).Ordered) :
    (Value.array (v :: vs)).Ordered := by
  cases hvs with
  | array hitems => exact .array (List.forall_mem_cons.mpr ⟨hv, hitems⟩)

/-- One more member, at the place of its name. -/
theorem Ordered.put (hms : (Value.object ms).Ordered) (hv : v.Ordered) :
    (Value.object (Keyed.put Prod.fst (name, v) ms)).Ordered := by
  cases hms with
  | object hnames hmembers =>
    refine .object hnames.put fun m hm => ?_
    rcases Keyed.mem_of_mem_put hm with rfl | hm
    · exact hv
    · exact hmembers m hm

end Value

namespace Document

mutual

/-- The value of a document is ordered, whatever the order of its members and however often a name
is given. -/
theorem ordered_valueWithin? {v : Value} : ∀ (depth : Nat) (d : Document),
    d.valueWithin? depth = some v → v.Ordered
  | depth, .null, h => by cases h; exact .null
  | depth, .bool b, h => by cases h; exact .bool b
  | depth, .number l, h => by
    obtain ⟨n, -, rfl⟩ := Option.map_eq_some_iff.mp h
    exact .number n
  | depth, .string s, h => by
    obtain ⟨text, -, rfl⟩ := Option.map_eq_some_iff.mp h
    exact .string text
  | 0, .array ds, h => nomatch h
  | depth + 1, .array ds, h => by
    obtain ⟨vs, hvs, rfl⟩ := Option.map_eq_some_iff.mp h
    exact ordered_valuesWithin? depth ds hvs
  | 0, .object ms, h => nomatch h
  | depth + 1, .object ms, h => by
    obtain ⟨all, hall, rfl⟩ := Option.map_eq_some_iff.mp h
    exact ordered_membersWithin? depth [] ms (.object Keyed.ascending_nil nofun) hall

theorem ordered_valuesWithin? {vs : List Value} : ∀ (depth : Nat) (ds : List Document),
    valuesWithin? depth ds = some vs → (Value.array vs).Ordered
  | depth, [], h => by cases h; exact .array nofun
  | depth, d :: ds, h => by
    rw [valuesWithin?] at h
    split at h
    · cases h
    · next v hv =>
      obtain ⟨rest, hrest, rfl⟩ := Option.map_eq_some_iff.mp h
      exact (ordered_valueWithin? depth d hv).cons (ordered_valuesWithin? depth ds hrest)

theorem ordered_membersWithin? {all : List (String × Value)} : ∀ (depth : Nat)
    (found : List (String × Value)) (ms : List (Option String × Document)),
    (Value.object found).Ordered → membersWithin? depth found ms = some all →
      (Value.object all).Ordered
  | depth, found, [], hfound, h => by cases h; exact hfound
  | depth, found, (name, d) :: ms, hfound, h => by
    unfold membersWithin? at h
    split at h
    · next name v hv =>
      exact ordered_membersWithin? depth _ ms (hfound.put (ordered_valueWithin? depth d hv)) h
    · cases h

end

end Document

/-- What a text holds is ordered. -/
theorem Value.ordered_read? {s : String} {v : Value} (h : read? s = some v) : v.Ordered := by
  obtain ⟨d, -, hd⟩ := Option.bind_eq_some_iff.mp h
  exact d.ordered_valueWithin? deepest hd

end Json

end TickChart
