import TickChart.Json.Document
import TickChart.Keyed
import TickChart.Number.Shortest

/-!
# JSON values

A value is what a document means: numbers instead of literals, texts instead of quoted units, and
objects as maps. A name given twice keeps its last member, and the members of an object are in the
order of their names.

* `Value`: the values; `Value.get?` is the member of an object.
* `Document.value?`: the value of a document. A number beyond the range of doubles, a string that
  names no text, and more than 127 levels of arrays and objects have none.
* `Value.text`: the value as compact text.
-/

namespace TickChart.Json

/-- What a document means. The members of an object ascend by name. -/
inductive Value where
  | null
  | bool (value : Bool)
  | number (value : Number)
  | string (text : String)
  | array (items : List Value)
  | object (members : List (String × Value))

/-- The levels of arrays and objects that a value may have. -/
def deepest : Nat := 127

namespace Document

mutual

/-- The value of a document with at most `depth` levels. -/
def valueWithin? : Nat → Document → Option Value
  | _, .null => some .null
  | _, .bool b => some (.bool b)
  | _, .number l => l.number?.map .number
  | _, .string s => s.map .string
  | 0, .array _ => none
  | depth + 1, .array ds => (valuesWithin? depth ds).map .array
  | 0, .object _ => none
  | depth + 1, .object ms => (membersWithin? depth [] ms).map .object

/-- The values of documents with at most `depth` levels each. -/
def valuesWithin? : Nat → List Document → Option (List Value)
  | _, [] => some []
  | depth, d :: ds =>
    match valueWithin? depth d with
    | none => none
    | some v => (valuesWithin? depth ds).map (v :: ·)

/-- The members of an object, put one after the other into those that came before. -/
def membersWithin? : Nat → List (String × Value) → List (Option String × Document) →
    Option (List (String × Value))
  | _, found, [] => some found
  | depth, found, (name, d) :: ms =>
    match name, valueWithin? depth d with
    | some name, some v => membersWithin? depth (Keyed.put Prod.fst (name, v) found) ms
    | _, _ => none

end

end Document

namespace Value

/-- The value that a text holds. -/
def read? (s : String) : Option Value :=
  (Document.read? s).bind (Document.valueWithin? deepest)

/-- The member of an object under a name; other values have none. -/
def get? (v : Value) (name : String) : Option Value :=
  match v with
  | .object members => members.lookup name
  | _ => none

/-- The members of an object. -/
def members? : Value → Option (List (String × Value))
  | .object members => some members
  | _ => none

/-- The text of a string. -/
def text? : Value → Option String
  | .string s => some s
  | _ => none

/-- A number as compact text. -/
def numberChars : Number → List Char
  | .int n => Text.intDigits n
  | .double x => x.jsonChars

mutual

/-- The value as compact text. -/
def chars : Value → List Char
  | .null => "null".toList
  | .bool true => "true".toList
  | .bool false => "false".toList
  | .number n => numberChars n
  | .string s => quote s.toList
  | .array [] => ['[', ']']
  | .array (v :: vs) => '[' :: v.chars ++ itemsChars vs
  | .object [] => ['{', '}']
  | .object ((name, v) :: ms) =>
    '{' :: quote name.toList ++ ':' :: v.chars ++ membersChars ms

/-- The items behind the first one, and the closing bracket. -/
def itemsChars : List Value → List Char
  | [] => [']']
  | v :: vs => ',' :: v.chars ++ itemsChars vs

/-- The members behind the first one, and the closing brace. -/
def membersChars : List (String × Value) → List Char
  | [] => ['}']
  | (name, v) :: ms => ',' :: quote name.toList ++ ':' :: v.chars ++ membersChars ms

end

/-- The value as compact text. -/
def text (v : Value) : String := String.ofList v.chars

end Value

end TickChart.Json
