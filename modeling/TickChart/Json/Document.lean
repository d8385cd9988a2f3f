import TickChart.Json.Number
import TickChart.Json.Quoted

/-!
# JSON documents

A document is a JSON text as it is written: members in their order, a name as often as it was
given, numbers as literals. A string or a name whose escapes name no text is kept as such, since a
reader may skip over it.

* `Document`: the tree of a text.
* `Document.chars`: the compact text of a tree.
* `Document.read?`: the tree of a text that holds one document, and blanks around its tokens.
-/

namespace TickChart.Json

open TickChart.Text

/-- A JSON text as a tree. `string none` is a string that names no text. -/
inductive Document where
  | null
  | bool (value : Bool)
  | number (literal : Literal)
  | string (text : Option String)
  | array (items : List Document)
  | object (members : List (Option String × Document))

namespace Document

/-- An integer. -/
def ofInt (n : Int) : Document := .number (Literal.ofInt n)

/-- A text. -/
def ofText (s : String) : Document := .string (some s)

/-- An object with these members, in this order. -/
def record (members : List (String × Document)) : Document :=
  .object (members.map fun (name, d) => (some name, d))

/-! ## Writing -/

/-- A string or a name. One that names no text is written as a lone surrogate. -/
def textChars : Option String → List Char
  | some s => quote s.toList
  | none => "\"\\ud800\"".toList

mutual

/-- The document as compact text. -/
def chars : Document → List Char
  | .null => "null".toList
  | .bool true => "true".toList
  | .bool false => "false".toList
  | .number l => l.chars
  | .string s => textChars s
  | .array [] => ['[', ']']
  | .array (d :: ds) => '[' :: d.chars ++ itemsChars ds
  | .object [] => ['{', '}']
  | .object ((name, d) :: ms) => '{' :: textChars name ++ ':' :: d.chars ++ membersChars ms

/-- The items behind the first one, and the closing bracket. -/
def itemsChars : List Document → List Char
  | [] => [']']
  | d :: ds => ',' :: d.chars ++ itemsChars ds

/-- The members behind the first one, and the closing brace. -/
def membersChars : List (Option String × Document) → List Char
  | [] => ['}']
  | (name, d) :: ms => ',' :: textChars name ++ ':' :: d.chars ++ membersChars ms

end

/-- The document as compact text. -/
def text (d : Document) : String := String.ofList d.chars

/-! ## Reading -/

/-- The four blanks that may stand between tokens. -/
def isSpace (c : Char) : Bool := c = ' ' || c = '\t' || c = '\n' || c = '\r'

/-- The text behind the blanks at its front. -/
def skipSpace (cs : List Char) : List Char := cs.dropWhile isSpace

/-- The text behind a word at its front. -/
def skipWord? (word cs : List Char) : Option (List Char) :=
  if word.isPrefixOf cs then some (cs.drop word.length) else none

/-- The digits of an exponent behind its `e`, with their sign; at least one digit. -/
def exponent? (cs : List Char) : Option (Int × List Char) :=
  let (negative, rest) :=
    match cs with
    | '-' :: rest => (true, rest)
    | '+' :: rest => (false, rest)
    | _ => (false, cs)
  let (ds, rest) := spanDigits rest
  if ds.isEmpty then none
  else
    let n : Int := natOfDigits 0 ds
    some (if negative then -n else n, rest)

/-- The digits before the point: a lone zero, or a number without a leading zero. -/
def wholeDigits? : List Char → Option (List Nat × List Char)
  | '0' :: rest => some ([0], rest)
  | cs =>
    let (ds, rest) := spanDigits cs
    if ds.isEmpty then none else some (ds, rest)

/-- The digits behind the point, at least one, or none without a point. -/
def partDigits? : List Char → Option (List Nat × List Char)
  | '.' :: rest =>
    let (ds, rest) := spanDigits rest
    if ds.isEmpty then none else some (ds, rest)
  | cs => some ([], cs)

/-- A number literal. -/
def literal? (cs : List Char) : Option (Literal × List Char) := do
  let (negative, cs) :=
    match cs with
    | '-' :: rest => (true, rest)
    | _ => (false, cs)
  let (whole, cs) ← wholeDigits? cs
  let (part, cs) ← partDigits? cs
  match cs with
  | c :: rest =>
    if c = 'e' ∨ c = 'E' then
      let (e, rest) ← exponent? rest
      some (⟨negative, whole, part, some e⟩, rest)
    else some (⟨negative, whole, part, none⟩, cs)
  | [] => some (⟨negative, whole, part, none⟩, cs)

mutual

/-- A document at the front of a text, and what follows it. The first argument bounds the depth of
the recursion. -/
def value? : Nat → List Char → Option (Document × List Char)
  | 0, _ => none
  | fuel + 1, cs =>
    match skipSpace cs with
    | '"' :: rest => (unquote? rest).map fun (units, rest) => (.string (textOf? units), rest)
    | '[' :: rest =>
      match skipSpace rest with
      | ']' :: rest => some (.array [], rest)
      | rest => (items? fuel rest).map fun (ds, rest) => (.array ds, rest)
    | '{' :: rest =>
      match skipSpace rest with
      | '}' :: rest => some (.object [], rest)
      | rest => (members? fuel rest).map fun (ms, rest) => (.object ms, rest)
    | 'n' :: rest => (skipWord? "ull".toList rest).map fun rest => (.null, rest)
    | 't' :: rest => (skipWord? "rue".toList rest).map fun rest => (.bool true, rest)
    | 'f' :: rest => (skipWord? "alse".toList rest).map fun rest => (.bool false, rest)
    | rest => (literal? rest).map fun (l, rest) => (.number l, rest)

/-- Items up to and with the closing bracket, at least one. -/
def items? : Nat → List Char → Option (List Document × List Char)
  | 0, _ => none
  | fuel + 1, cs =>
    match value? fuel cs with
    | none => none
    | some (d, rest) =>
      match skipSpace rest with
      | ']' :: rest => some ([d], rest)
      | ',' :: rest => (items? fuel rest).map fun (ds, rest) => (d :: ds, rest)
      | _ => none

/-- Members up to and with the closing brace, at least one. -/
def members? : Nat → List Char → Option (List (Option String × Document) × List Char)
  | 0, _ => none
  | fuel + 1, cs =>
    match skipSpace cs with
    | '"' :: rest =>
      match unquote? rest with
      | none => none
      | some (units, rest) =>
        match skipSpace rest with
        | ':' :: rest =>
          match value? fuel rest with
          | none => none
          | some (d, rest) =>
            match skipSpace rest with
            | '}' :: rest => some ([(textOf? units, d)], rest)
            | ',' :: rest =>
              (members? fuel rest).map fun (ms, rest) => ((textOf? units, d) :: ms, rest)
            | _ => none
        | _ => none
    | _ => none

end

/-- The document that a text holds, with nothing but blanks around it. Every level and every item
takes up at least one character, which bounds the recursion. -/
def ofChars? (cs : List Char) : Option Document :=
  match value? (2 * cs.length + 2) cs with
  | some (d, rest) => if (skipSpace rest).isEmpty then some d else none
  | none => none

/-- The document that a text holds. -/
def read? (s : String) : Option Document := ofChars? s.toList

end Document

end TickChart.Json
