/-!
# Tables in the order of a key

A table is a list whose entries ascend by a key, no key twice. An entry that is put into it goes to
the place of its key, and replaces the entry that was there.

* `Keyed.Ascending`: the keys ascend.
* `Keyed.put`: one entry put into a table.
* `Keyed.merge`, `Keyed.ofList`: entries put in one after the other, so that the last entry of a
  key is kept.
* `Keyed.get?`: the entry of a key; `get?_put` and `get?_merge` say what it is afterwards.
* `bisect`: search by halving in keys that ascend, for the place of the last key that is not above
  the one looked for.
* `holdsKey`: a key is in an ascending list. Of a list in another order only the places that the
  halving comes to are looked at.
-/

namespace TickChart

namespace Keyed

variable {α κ : Type} [LT κ] [DecidableLT κ] [DecidableEq κ]

/-- The keys ascend, so that none comes twice. -/
def Ascending (key : α → κ) (table : List α) : Prop :=
  table.Pairwise fun a b => key a < key b

instance (key : α → κ) (table : List α) : Decidable (Ascending key table) := by
  unfold Ascending; infer_instance

/-- The table with `x` at the place of its key, instead of the entry that was there. -/
def put (key : α → κ) (x : α) : List α → List α
  | [] => [x]
  | y :: rest =>
    if key x < key y then x :: y :: rest
    else if key x = key y then x :: rest
    else y :: put key x rest

/-- The table with entries put into it, from the first to the last. -/
def merge (key : α → κ) (table entries : List α) : List α :=
  entries.foldl (fun t x => put key x t) table

/-- The table of the entries: for each key the last one of it. -/
def ofList (key : α → κ) (entries : List α) : List α :=
  merge key [] entries

/-- The entry with the key `k`. -/
def get? (key : α → κ) (k : κ) (table : List α) : Option α :=
  table.find? fun x => key x = k

omit [LT κ] [DecidableLT κ] in
@[simp] theorem get?_nil (key : α → κ) (k : κ) : get? key k [] = none := rfl

omit [LT κ] [DecidableLT κ] in
theorem get?_cons (key : α → κ) (k : κ) (x : α) (table : List α) :
    get? key k (x :: table) = if key x = k then some x else get? key k table := by
  simp only [get?, List.find?_cons]
  split <;> simp_all

/-- Putting an entry in sets the entry of its key and leaves all others. -/
theorem get?_put (key : α → κ) (k : κ) (x : α) (table : List α) :
    get? key k (put key x table) = if key x = k then some x else get? key k table := by
  induction table with
  | nil => simp [put, get?_cons]
  | cons y rest ih =>
    rw [put]
    split
    · simp [get?_cons]
    · split
      · next hxy => simp only [get?_cons, ← hxy]; split <;> rfl
      · next hxy =>
        simp only [get?_cons, ih]
        by_cases h : key x = k
        · simp [h, show key y ≠ k from fun hy => hxy (h.trans hy.symm)]
        · simp [h]

@[simp] theorem merge_nil (key : α → κ) (table : List α) : merge key table [] = table := rfl

@[simp] theorem merge_cons (key : α → κ) (table : List α) (x : α) (entries : List α) :
    merge key table (x :: entries) = merge key (put key x table) entries := rfl

theorem merge_append (key : α → κ) (table a b : List α) :
    merge key table (a ++ b) = merge key (merge key table a) b := by
  simp [merge]

/-- The entry of a key after entries were put in is the last one of them with that key, and the
one that was there before if there is none. -/
theorem get?_merge (key : α → κ) (k : κ) (table entries : List α) :
    get? key k (merge key table entries) =
      (get? key k entries.reverse).or (get? key k table) := by
  induction entries generalizing table with
  | nil => simp
  | cons x entries ih =>
    rw [merge_cons, ih, get?_put, List.reverse_cons]
    simp only [get?, List.find?_append]
    by_cases h : key x = k <;> simp [h]

end Keyed

/-! ## Bisection -/

/-- The place at which halving ends, among `size` keys from the place `base` on: the upper half is
kept when its first key is not above `k`. -/
def bisect (keys : Array Int) (k : Int) (base size : Nat) : Nat :=
  if size ≤ 1 then base
  else
    let half := size / 2
    if k < keys.getD (base + half) 0 then bisect keys k base (size - half)
    else bisect keys k (base + half) (size - half)
termination_by size
decreasing_by all_goals omega

/-- `k` is one of the keys, which ascend (`binary_search_by_key`). -/
def holdsKey (keys : Array Int) (k : Int) : Bool :=
  keys[bisect keys k 0 keys.size]? = some k

end TickChart
