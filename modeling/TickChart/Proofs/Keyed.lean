import Mathlib.Data.List.Induction
import Mathlib.Data.List.Sort
import Mathlib.Order.RelClasses
import TickChart.Keyed

/-!
# The order of tables

Putting entries into a table keeps its keys ascending, whatever the entries and their order, and
loses no key.

* `Ascending.put`, `ascending_ofList`: a table stays one, and any list of entries becomes one.
* `mem_put_self`, `mem_of_mem_put`: an entry that was put in is there, and no other came in with it.
* `put_of_above`, `put_of_mem`: an entry with a key above all others goes to the end, and one that
  is there already changes nothing. So a table of its own entries is the table itself
  (`Ascending.ofList_eq`), and a table may be made part by part (`ofList_append`).
* `mem_ofList_id`: a table of keys holds exactly the keys that were put in.
* `get?_ofList`, `mem_ofList`: of each key, a table of entries holds the last entry.
  `mem_ofList_filterMap` says so of the rows that the entries come of.
* `ofList_congr`: a table of entries is known by what there is of each key, in its order.
* `filter_ofList`: entries may be chosen by their keys before or after they make a table.
-/

namespace TickChart.Keyed

variable {α κ : Type} [LT κ] {key : α → κ} {x y : α} {table entries : List α}

@[simp] theorem ascending_nil : Ascending key ([] : List α) := List.Pairwise.nil

theorem ascending_cons :
    Ascending key (x :: table) ↔ (∀ y ∈ table, key x < key y) ∧ Ascending key table :=
  List.pairwise_cons

/-- A table with one more entry behind it is a table exactly if the new key is above all others. -/
theorem ascending_concat :
    Ascending key (table ++ [x]) ↔ Ascending key table ∧ ∀ y ∈ table, key y < key x := by
  simp [Ascending, List.pairwise_append]

theorem Ascending.sublist (h : Ascending key table) (hs : entries.Sublist table) :
    Ascending key entries :=
  List.Pairwise.sublist hs h

variable [DecidableLT κ] [DecidableEq κ]

theorem mem_of_mem_put (h : y ∈ put key x table) : y = x ∨ y ∈ table := by
  induction table with
  | nil => simpa [put] using h
  | cons z rest ih =>
    simp only [put] at h
    split at h
    · simpa using h
    · split at h
      · rcases List.mem_cons.mp h with rfl | hy
        · exact .inl rfl
        · exact .inr (List.mem_cons_of_mem _ hy)
      · rcases List.mem_cons.mp h with rfl | hy
        · exact .inr List.mem_cons_self
        · exact (ih hy).imp_right (List.mem_cons_of_mem _)

theorem mem_put_self : x ∈ put key x table := by
  induction table with
  | nil => simp [put]
  | cons z rest ih =>
    simp only [put]
    split
    · exact List.mem_cons_self
    · split
      · exact List.mem_cons_self
      · exact List.mem_cons_of_mem _ ih

/-- An entry of another key stays. -/
theorem mem_put_of_ne (hy : y ∈ table) (hne : key y ≠ key x) : y ∈ put key x table := by
  induction table with
  | nil => cases hy
  | cons z rest ih =>
    simp only [put]
    split
    · exact List.mem_cons_of_mem _ hy
    · split
      · next hz =>
        rcases List.mem_cons.mp hy with rfl | hy
        · exact absurd hz.symm hne
        · exact List.mem_cons_of_mem _ hy
      · rcases List.mem_cons.mp hy with rfl | hy
        · exact List.mem_cons_self
        · exact List.mem_cons_of_mem _ (ih hy)

theorem ofList_concat : ofList key (entries ++ [x]) = put key x (ofList key entries) := by
  simp [ofList, merge_append]

theorem mem_of_mem_ofList (h : x ∈ ofList key entries) : x ∈ entries := by
  induction entries using List.reverseRecOn with
  | nil => exact h
  | append_singleton entries y ih =>
    rw [ofList_concat] at h
    rw [List.mem_append, List.mem_singleton]
    exact (mem_of_mem_put h).symm.imp_left ih

theorem mem_ofList_id {x : κ} {entries : List κ} : x ∈ ofList id entries ↔ x ∈ entries := by
  induction entries using List.reverseRecOn with
  | nil => exact Iff.rfl
  | append_singleton entries y ih =>
    rw [ofList_concat, List.mem_append, List.mem_singleton, ← ih]
    constructor
    · exact fun h => (mem_of_mem_put h).symm
    · rintro (h | rfl)
      · by_cases hxy : x = y
        · exact hxy ▸ mem_put_self
        · exact mem_put_of_ne h hxy
      · exact mem_put_self

/-- A table finds, for each key, the last entry of it. -/
theorem get?_ofList {k : κ} :
    get? key k (ofList key entries) = (entries.filter (key · = k)).getLast? := by
  rw [ofList, get?_merge, get?_nil, Option.or_none, get?, ← List.head?_filter, List.filter_reverse,
    List.head?_reverse]

variable [IsStrictTotalOrder κ (· < ·)]

omit [DecidableLT κ] in
/-- In a table an entry is found by its key. -/
theorem Ascending.get?_eq_some_iff {k : κ} (h : Ascending key table) :
    get? key k table = some x ↔ x ∈ table ∧ key x = k := by
  induction table with
  | nil => simp
  | cons y rest ih =>
    obtain ⟨hy, hrest⟩ := ascending_cons.mp h
    rw [get?_cons, List.mem_cons]
    by_cases hk : key y = k
    · subst hk
      rw [if_pos rfl, Option.some.injEq]
      constructor
      · rintro rfl
        exact ⟨.inl rfl, rfl⟩
      · rintro ⟨rfl | hx, hkey⟩
        · rfl
        · exact absurd (hkey ▸ hy x hx) (irrefl_of (· < ·) _)
    · rw [if_neg hk, ih hrest]
      constructor
      · rintro ⟨hx, hkey⟩
        exact ⟨.inr hx, hkey⟩
      · rintro ⟨rfl | hx, hkey⟩
        · exact absurd hkey hk
        · exact ⟨hx, hkey⟩

omit [DecidableLT κ] [DecidableEq κ] in
/-- Tables of the same entries are the same. -/
theorem Ascending.ext_mem {other : List α} (h : Ascending key table) (ho : Ascending key other)
    (hsame : ∀ y, y ∈ table ↔ y ∈ other) : table = other := by
  have hirrefl : Std.Irrefl fun a b : α => key a < key b := ⟨fun a => irrefl_of (· < ·) (key a)⟩
  have hantisymm : Std.Antisymm fun a b : α => key a < key b :=
    ⟨fun a b hab hba => absurd hba (asymm_of (· < ·) hab)⟩
  exact List.Pairwise.eq_of_mem_iff h ho hsame

omit [DecidableLT κ] in
/-- Tables in which each key finds the same entry are the same. -/
theorem Ascending.ext {other : List α} (h : Ascending key table) (ho : Ascending key other)
    (hsame : ∀ k, get? key k table = get? key k other) : table = other := by
  refine h.ext_mem ho fun y => ?_
  have hmem := h.get?_eq_some_iff (x := y) (k := key y)
  rw [hsame, ho.get?_eq_some_iff] at hmem
  simpa using hmem.symm

/-- An entry that is put into a table leaves a table. -/
theorem Ascending.put (h : Ascending key table) : Ascending key (put key x table) := by
  induction table with
  | nil => simp [Keyed.put, Ascending]
  | cons z rest ih =>
    obtain ⟨hz, hrest⟩ := ascending_cons.mp h
    simp only [Keyed.put]
    split
    · next hx =>
      refine ascending_cons.mpr ⟨fun y hy => ?_, h⟩
      rcases List.mem_cons.mp hy with rfl | hy
      · exact hx
      · exact trans_of (· < ·) hx (hz y hy)
    · next hx =>
      split
      · next hxz => exact ascending_cons.mpr ⟨fun y hy => hxz ▸ hz y hy, hrest⟩
      · next hxz =>
        refine ascending_cons.mpr ⟨fun y hy => ?_, ih hrest⟩
        rcases mem_of_mem_put hy with rfl | hy
        · exact ((trichotomous_of (· < ·) (key y) (key z)).resolve_left hx).resolve_left hxz
        · exact hz y hy

theorem Ascending.merge (h : Ascending key table) : Ascending key (merge key table entries) := by
  induction entries generalizing table with
  | nil => exact h
  | cons x entries ih => exact ih h.put

/-- Entries in any order make a table. -/
theorem ascending_ofList : Ascending key (ofList key entries) := Ascending.merge ascending_nil

/-- An entry is in the table of entries if no later one has its key. -/
theorem mem_ofList : x ∈ ofList key entries ↔
    ∃ before after, entries = before ++ x :: after ∧ ∀ y ∈ after, key y ≠ key x := by
  have hfound : x ∈ ofList key entries ↔
      (entries.filter (key · = key x)).getLast? = some x := by
    rw [← get?_ofList, ascending_ofList.get?_eq_some_iff]
    exact (and_iff_left rfl).symm
  rw [hfound, List.getLast?_eq_some_iff]
  constructor
  · rintro ⟨front, h⟩
    obtain ⟨before, rest, rfl, -, hrest⟩ := List.filter_eq_append_iff.mp h
    obtain ⟨middle, after, rfl, -, -, hafter⟩ := List.filter_eq_cons_iff.mp hrest
    refine ⟨before ++ middle, after, by simp, fun y hy => ?_⟩
    simpa using List.filter_eq_nil_iff.mp hafter y hy
  · rintro ⟨before, after, rfl, h⟩
    refine ⟨before.filter (key · = key x), ?_⟩
    have hafter : after.filter (key · = key x) = [] := by
      simpa [List.filter_eq_nil_iff] using h
    rw [List.filter_append, List.filter_cons_of_pos (by simp), hafter]

/-- An entry that comes of a row is in the table of rows if no later row brings one of its key. -/
theorem mem_ofList_filterMap {β : Type} {f : β → Option α} {rows : List β} :
    x ∈ ofList key (rows.filterMap f) ↔ ∃ before row after, rows = before ++ row :: after ∧
      f row = some x ∧ ∀ later ∈ after, ∀ y, f later = some y → key y ≠ key x := by
  rw [mem_ofList]
  constructor
  · rintro ⟨front, back, hsplit, hback⟩
    obtain ⟨before, rest, rfl, -, hrest⟩ := List.filterMap_eq_append_iff.mp hsplit
    obtain ⟨middle, row, after, rfl, -, hrow, rfl⟩ := List.filterMap_eq_cons_iff.mp hrest
    refine ⟨before ++ middle, row, after, by simp, hrow, fun later hlater y hy => ?_⟩
    exact hback y (List.mem_filterMap.mpr ⟨later, hlater, hy⟩)
  · rintro ⟨before, row, after, rfl, hrow, hafter⟩
    refine ⟨before.filterMap f, after.filterMap f, ?_, fun y hy => ?_⟩
    · rw [List.filterMap_append, List.filterMap_cons_some hrow]
    · obtain ⟨later, hlater, hy⟩ := List.mem_filterMap.mp hy
      exact hafter later hlater y hy

/-- Entries that are the same for each key, in the same order, make the same table. -/
theorem ofList_congr {others : List α}
    (h : ∀ k, entries.filter (key · = k) = others.filter (key · = k)) :
    ofList key entries = ofList key others :=
  ascending_ofList.ext ascending_ofList fun k => by rw [get?_ofList, get?_ofList, h]

omit [LT κ] [DecidableLT κ] [IsStrictTotalOrder κ (· < ·)] in
/-- Where entries are kept by their keys, what is kept is found as before. -/
theorem get?_filter (p : κ → Bool) (k : κ) :
    get? key k (table.filter fun x => p (key x)) = if p k then get? key k table else none := by
  induction table with
  | nil => simp
  | cons x rest ih =>
    rw [List.filter_cons]
    by_cases hx : key x = k
    · subst hx
      cases hp : p (key x) <;> simp [hp, ih, get?_cons]
    · cases hp : p (key x) <;> simp [ih, get?_cons, hx]

/-- To keep entries by their keys comes to the same before and after they make a table. -/
theorem filter_ofList (p : κ → Bool) :
    (ofList key entries).filter (fun x => p (key x)) =
      ofList key (entries.filter fun x => p (key x)) := by
  refine (ascending_ofList.sublist List.filter_sublist).ext ascending_ofList fun k => ?_
  rw [get?_filter, get?_ofList, get?_ofList, List.filter_filter]
  cases hp : p k
  · have hnone : entries.filter (fun x => decide (key x = k) && p (key x)) = [] := by
      rw [List.filter_eq_nil_iff]
      rintro x - hx
      simp only [Bool.and_eq_true, decide_eq_true_eq] at hx
      rw [hx.1, hp] at hx
      exact Bool.false_ne_true hx.2
    rw [hnone]
    rfl
  · have hall : (fun x => decide (key x = k) && p (key x)) = fun x => decide (key x = k) := by
      funext x
      by_cases hx : key x = k <;> simp [hx, hp]
    rw [hall]
    rfl

/-- Entries of smaller keys stay before an entry that is put in. -/
theorem put_append_of_above {front back : List α} (h : ∀ y ∈ front, key y < key x) :
    put key x (front ++ back) = front ++ put key x back := by
  induction front with
  | nil => rfl
  | cons z front ih =>
    have hz := h z List.mem_cons_self
    have hne : key x ≠ key z := fun e => irrefl_of (· < ·) (key z) (e ▸ hz)
    rw [List.cons_append, List.cons_append, put, if_neg (asymm_of (· < ·) hz), if_neg hne,
      ih fun y hy => h y (List.mem_cons_of_mem _ hy)]

/-- An entry with a key above all others goes to the end. -/
theorem put_of_above (h : ∀ y ∈ table, key y < key x) : put key x table = table ++ [x] := by
  calc put key x table
      = put key x (table ++ []) := by rw [List.append_nil]
    _ = table ++ [x] := put_append_of_above h

/-- A table of the entries of a table is that table. -/
theorem Ascending.ofList_eq (h : Ascending key table) : ofList key table = table := by
  induction table using List.reverseRecOn with
  | nil => rfl
  | append_singleton table x ih =>
    obtain ⟨hbefore, habove⟩ := ascending_concat.mp h
    rw [ofList_concat, ih hbefore, put_of_above habove]

/-- Entries may be made a table part by part: of each key the last part that has it counts. -/
theorem ofList_append {others : List α} :
    ofList key (entries ++ others) = ofList key (ofList key entries ++ ofList key others) := by
  have hparts (a b : List α) (k : κ) : get? key k (ofList key (a ++ b)) =
      (get? key k (ofList key b)).or (get? key k (ofList key a)) := by
    rw [get?_ofList, get?_ofList, get?_ofList, List.filter_append, List.getLast?_append]
  refine ascending_ofList.ext ascending_ofList fun k => ?_
  rw [hparts, hparts, ascending_ofList.ofList_eq, ascending_ofList.ofList_eq]

/-- An entry that is in a table already changes nothing. -/
theorem put_of_mem (h : Ascending key table) (hx : x ∈ table) : put key x table = table := by
  induction table with
  | nil => cases hx
  | cons z rest ih =>
    obtain ⟨hz, hrest⟩ := ascending_cons.mp h
    rcases List.mem_cons.mp hx with rfl | hx
    · simp only [put, irrefl_of (· < ·) (key x), ↓reduceIte]
    · have hne : key x ≠ key z := fun e => irrefl_of (· < ·) (key z) (e ▸ hz x hx)
      simp only [put, asymm_of (· < ·) (hz x hx), hne, ↓reduceIte]
      rw [ih hrest hx]

omit [DecidableLT κ] [DecidableEq κ] [IsStrictTotalOrder κ (· < ·)] in
/-- An entry with a key above which there is none is the last one. -/
theorem Ascending.eq_concat (h : Ascending key table) (hx : x ∈ table)
    (hle : ∀ y ∈ table, ¬ key x < key y) : ∃ front, table = front ++ [x] := by
  obtain ⟨front, back, rfl⟩ := List.append_of_mem hx
  cases back with
  | nil => exact ⟨front, rfl⟩
  | cons y back =>
    have hlt : key x < key y :=
      (ascending_cons.mp (h.sublist (List.sublist_append_right _ _))).1 y List.mem_cons_self
    exact absurd hlt (hle y (by simp))

end TickChart.Keyed
