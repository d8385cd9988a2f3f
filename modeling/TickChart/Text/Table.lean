import TickChart.Keyed
import TickChart.Text.Ascii
import TickChart.Text.Blank

/-!
# Tables of code points

Properties of characters, as runs of code points with one value, and the notation in which the runs
are listed. All numbers in a list are hexadecimal, and blanks separate its items.

* `Table.ofRuns`, `Table.find?`: a table, and the value of a code point.
* `runsOf`: the runs of a list such as `41-5a 5f`.
* `imagesOf`: the images of code points, in a list such as `c0: 41.300 41.301`. Behind the first
  code point and its colon stand its image and those of its successors.
* `exists_run_of_find?`: a value that is found is that of a run around the code point.
-/

namespace TickChart.Text

/-- The code points from `first` to `last`, with one value. -/
structure Run (α : Type) where
  first : Nat
  last : Nat
  value : α

/-- Runs in ascending order, and where each of them begins. -/
structure Table (α : Type) where
  runs : Array (Run α)
  firsts : Array Int

namespace Table

variable {α : Type}

/-- The table of runs that are apart, in any order. -/
def ofRuns (runs : List (Run α)) : Table α :=
  let sorted := (runs.mergeSort fun a b => decide (a.first ≤ b.first)).toArray
  ⟨sorted, sorted.map fun r => (r.first : Int)⟩

/-- The value of a code point. -/
def find? (t : Table α) (n : Nat) : Option α :=
  match t.runs[bisect t.firsts n 0 t.firsts.size]? with
  | some r => if r.first ≤ n ∧ n ≤ r.last then some r.value else none
  | none => none

/-- The code point has a value. -/
def holds (t : Table α) (n : Nat) : Bool := (t.find? n).isSome

/-- A value that is found is that of a run around the code point. -/
theorem exists_run_of_find? {t : Table α} {n : Nat} {v : α} (h : t.find? n = some v) :
    ∃ r ∈ t.runs, r.first ≤ n ∧ n ≤ r.last ∧ r.value = v := by
  simp only [find?] at h
  split at h
  · next r hr =>
    split at h
    · next hn => exact ⟨r, Array.mem_of_getElem? hr, hn.1, hn.2, Option.some.inj h⟩
    · simp at h
  · simp at h

/-- The runs of a table built from runs are those runs. -/
theorem mem_runs_ofRuns {runs : List (Run α)} {r : Run α} :
    r ∈ (ofRuns runs).runs ↔ r ∈ runs := by
  simp [ofRuns]

end Table

/-! ## Notation -/

/-- The number that hexadecimal digits write. -/
def hexNumber (cs : List Char) : Nat :=
  cs.foldl (fun n c => 16 * n + (hexDigit? c).getD 0) 0

/-- The items of the lines of a list. -/
def itemsOf (lines : List String) : List (List Char) :=
  lines.flatMap fun line => words line.toList

/-- A run: its ends with a hyphen between them, or its only code point. -/
def readRun (item : List Char) : Nat × Nat :=
  match splitOn (· = '-') item with
  | [first, last] => (hexNumber first, hexNumber last)
  | _ => (hexNumber item, hexNumber item)

/-- The runs of a list. -/
def runsOf (lines : List String) : List (Nat × Nat) := (itemsOf lines).map readRun

/-- The table in which all runs of a list have one value. -/
def Table.ofLines (lines : List String) : Table Unit :=
  .ofRuns ((runsOf lines).map fun (first, last) => ⟨first, last, ()⟩)

/-- The table of several lists, each with the value of its runs. -/
def Table.ofGroups {α : Type} (groups : List (α × List String)) : Table α :=
  .ofRuns (groups.flatMap fun (value, lines) =>
    (runsOf lines).map fun (first, last) => ⟨first, last, value⟩)

/-- An image: code points with points between them. -/
def readImage (item : List Char) : List Nat := (splitOn (· = '.') item).map hexNumber

/-- The images that items list, the first of which is that of the code point `n`. -/
def imagesFrom (n : Nat) : List (List Char) → List (Nat × List Nat)
  | [] => []
  | item :: items =>
    if item.getLast? = some ':' then imagesFrom (hexNumber item.dropLast) items
    else (n, readImage item) :: imagesFrom (n + 1) items

/-- The images of a list, each with its code point. -/
def imagesOf (lines : List String) : List (Nat × List Nat) := imagesFrom 0 (itemsOf lines)

end TickChart.Text
