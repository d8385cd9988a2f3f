import TickChart.Text.Ascii

/-!
# JSON strings

Inside the quotes a string is written in 16-bit units where it is escaped and in characters where
it is not. An escaped surrogate that is not part of a pair makes a string that names no text.

* `quote`: a text between quotes. Quotes, backslashes and the characters below U+0020 are escaped.
* `unquote?`: the units up to the closing quote, and what follows it.
* `textOf?`: the text that a list of units names.
-/

namespace TickChart.Json

open TickChart.Text

/-- The escape of one character, or the character itself. -/
def escape (c : Char) : List Char :=
  if c = '"' then ['\\', '"']
  else if c = '\\' then ['\\', '\\']
  else if c = '\n' then ['\\', 'n']
  else if c = '\r' then ['\\', 'r']
  else if c = '\t' then ['\\', 't']
  else if c = '\x08' then ['\\', 'b']
  else if c = '\x0c' then ['\\', 'f']
  else if c.toNat < 0x20 then
    ['\\', 'u', '0', '0', hexChar (c.toNat / 16), hexChar (c.toNat % 16)]
  else [c]

/-- The text between quotes. -/
def quote (cs : List Char) : List Char := '"' :: cs.flatMap escape ++ ['"']

/-- The character that a letter behind a backslash stands for. -/
def unescape? : Char → Option Char
  | '"' => some '"'
  | '\\' => some '\\'
  | '/' => some '/'
  | 'b' => some '\x08'
  | 'f' => some '\x0c'
  | 'n' => some '\n'
  | 'r' => some '\r'
  | 't' => some '\t'
  | _ => none

/-- The value of four hexadecimal digits. -/
def hexUnit? (a b c d : Char) : Option Nat := do
  some ((← hexDigit? a) * 4096 + (← hexDigit? b) * 256 + (← hexDigit? c) * 16 + (← hexDigit? d))

/-- The units of a string from behind its opening quote, and the text behind the closing one. -/
def unquote? : List Char → Option (List Nat × List Char)
  | [] => none
  | '"' :: rest => some ([], rest)
  | '\\' :: 'u' :: a :: b :: c :: d :: rest => do
    let unit ← hexUnit? a b c d
    let (units, rest) ← unquote? rest
    some (unit :: units, rest)
  | '\\' :: letter :: rest => do
    let char ← unescape? letter
    let (units, rest) ← unquote? rest
    some (char.toNat :: units, rest)
  | char :: rest =>
    if char.toNat < 0x20 ∨ char = '\\' then none
    else do
      let (units, rest) ← unquote? rest
      some (char.toNat :: units, rest)

/-- The first half of a surrogate pair. -/
def isHighHalf (u : Nat) : Bool := 0xD800 ≤ u && u < 0xDC00

/-- The second half of a surrogate pair. -/
def isLowHalf (u : Nat) : Bool := 0xDC00 ≤ u && u < 0xE000

/-- The characters that units name, each pair of surrogates one character. -/
def charsOf? : List Nat → Option (List Char)
  | [] => some []
  | u :: rest =>
    if isHighHalf u then
      match rest with
      | v :: more =>
        if isLowHalf v then
          (charsOf? more).map (Char.ofNat (0x10000 + (u - 0xD800) * 0x400 + (v - 0xDC00)) :: ·)
        else none
      | [] => none
    else if isLowHalf u then none
    else (charsOf? rest).map (Char.ofNat u :: ·)

/-- The text that units name. -/
def textOf? (units : List Nat) : Option String := (charsOf? units).map String.ofList

end TickChart.Json
