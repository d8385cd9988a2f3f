import TickChart.Json.Document

/-!
# Records

How typed data stands in a document.

* `fields?`: the fields of a record, which is an object or an array. In an object a field is found
  by its name, may be missing, and may not come twice; other members are of no interest. In an
  array the fields stand in their order, and none is missing.
* `word?`: a word of an enumeration, alone or as the only name of an object that holds `null`.
* `variant?`: the case of a sum and its content, as the only member of an object.
-/

namespace TickChart.Json.Document

/-- The member with a name: none, or exactly one. -/
def member? (name : String) (members : List (Option String × Document)) :
    Option (Option Document) :=
  match members.filter (·.1 = some name) with
  | [] => some none
  | [(_, d)] => some (some d)
  | _ => none

/-- The fields of a record, in the order of `names`. -/
def fields? (names : List String) : Document → Option (List (Option Document))
  | .object members =>
    if members.all (·.1.isSome) then names.mapM fun name => member? name members else none
  | .array items => if items.length = names.length then some (items.map some) else none
  | _ => none

/-- A word of an enumeration. -/
def word? : Document → Option String
  | .string s => s
  | .object [(name, .null)] => name
  | _ => none

/-- A case of a sum, by its name, and its content. -/
def variant? : Document → Option (String × Document)
  | .object [(name, d)] => name.map (·, d)
  | _ => none

/-- The text of a string. -/
def text? : Document → Option String
  | .string s => s
  | _ => none

/-- The number that a literal stands for. -/
def number? : Document → Option Number
  | .number l => l.number?
  | _ => none

/-- An integer from `low` to `top`. -/
def intIn? (low top : Int) (d : Document) : Option Int := d.number?.bind (Number.intIn? low top)

/-- The items of an array, each of them read. -/
def list? {α : Type} (item : Document → Option α) : Document → Option (List α)
  | .array ds => ds.mapM item
  | _ => none

/-- A field that may be missing or `null`. -/
def optional? {α : Type} (read : Document → Option α) : Option Document → Option (Option α)
  | none => some none
  | some .null => some none
  | some d => (read d).map some

end TickChart.Json.Document
