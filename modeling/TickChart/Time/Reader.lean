import TickChart.Text.Blank
import TickChart.Text.Integer
import TickChart.Time.Instant

/-!
# Reading instants

Three notations, from strict to loose. Each names a clock reading and its offset from UTC; that
the date exists and the instant is in range is checked afterwards.

* `readStrict?`: RFC 3339. Every field has its full width, the year has four digits and no sign.
* `readNaive?`: a date and a time without an offset, which counts as UTC. Fields may be short and
  may have blanks before them, and the year may have a sign and then any length.
* `readLoose?`: RFC 3339 with short fields, blanks between fields, and the word `UTC`.
* `readInstant?`: what a field of a message may hold: the strict notation, the naive one, or a
  number of seconds.
-/

namespace TickChart.Time

open TickChart.Text

/-- A part of a notation: reads its field from the front of a text and leaves the rest. -/
abbrev Field (α : Type) := List Char → Option (α × List Char)

/-- The digits at the front of a text, at most `most` of them. -/
def takeDigits : Nat → List Char → List Nat × List Char
  | 0, cs => ([], cs)
  | _, [] => ([], [])
  | most + 1, c :: cs =>
    match digit? c with
    | some d => let (ds, rest) := takeDigits most cs; (d :: ds, rest)
    | none => ([], c :: cs)

/-- A number of `least` to `most` digits. -/
def number? (least most : Nat) : Field Nat := fun cs =>
  let (ds, rest) := takeDigits most cs
  if ds.length < least then none else some (natOfDigits 0 ds, rest)

/-- The character `c`. -/
def skip? (c : Char) : List Char → Option (List Char)
  | d :: rest => if c = d then some rest else none
  | [] => none

/-- A fraction of a second behind a point, or none. Digits after the ninth are dropped. -/
def fraction? : Field Nat := fun cs =>
  match cs with
  | '.' :: rest =>
    let (ds, rest) := takeDigits 9 rest
    if ds.isEmpty then none
    else some (natOfDigits 0 ds * tenTo (9 - ds.length), rest.dropWhile isDigit)
  | _ => some (0, cs)

/-- An offset from UTC in seconds: `Z`, or a sign, two digits of hours below 100, the separator,
and two digits of minutes below 60. The minus sign has two forms. -/
def offset? (separator : List Char → Option (List Char)) : Field Int := fun cs =>
  match cs with
  | [] => none
  | c :: rest =>
    if c = 'Z' ∨ c = 'z' then some (0, rest)
    else if c = '+' ∨ c = '-' ∨ c = '\u2212' then do
      let (hours, rest) ← number? 2 2 rest
      let (minutes, rest) ← number? 2 2 (← separator rest)
      if minutes < 60 then
        let seconds : Int := hours * 3600 + minutes * 60
        some (if c = '+' then seconds else -seconds, rest)
      else none
    else none

/-! ## The strict notation -/

/-- A clock reading and an offset, each field in its full width. -/
def strict? : Field (Clock × Int) := fun cs => do
  let (year, cs) ← number? 4 4 cs
  let (month, cs) ← number? 2 2 (← skip? '-' cs)
  let (day, cs) ← number? 2 2 (← skip? '-' cs)
  let cs ← skip? 'T' cs <|> skip? 't' cs <|> skip? ' ' cs
  let (hour, cs) ← number? 2 2 cs
  let (minute, cs) ← number? 2 2 (← skip? ':' cs)
  let (second, cs) ← number? 2 2 (← skip? ':' cs)
  let (nanos, cs) ← fraction? cs
  let (offset, cs) ← offset? (skip? ':') cs
  some ((⟨⟨year, month, day⟩, hour, minute, second, nanos⟩, offset), cs)

/-- An instant in the notation of RFC 3339, filling the whole text. -/
def readStrict? (cs : List Char) : Option Instant :=
  match strict? cs with
  | some ((clock, offset), []) =>
    if offset.natAbs < 86400 then Instant.ofClock? clock offset else none
  | _ => none

/-! ## The naive notation -/

/-- A number of one or two digits, after blanks or none. -/
def short? : Field Nat := fun cs => number? 1 2 (trimStart cs)

/-- A year after blanks or none: with a sign and any number of digits, or with up to four. -/
def year? : Field Int := fun cs =>
  match trimStart cs with
  | '-' :: rest => (number? 1 rest.length rest).map fun (n, rest) => (-(n : Int), rest)
  | '+' :: rest => (number? 1 rest.length rest).map fun (n, rest) => ((n : Int), rest)
  | rest => (number? 1 4 rest).map fun (n, rest) => ((n : Int), rest)

/-- A clock reading; the separators are `-`, `T` and `:` and nothing else. -/
def naive? : Field Clock := fun cs => do
  let (year, cs) ← year? cs
  let (month, cs) ← short? (← skip? '-' cs)
  let (day, cs) ← short? (← skip? '-' cs)
  let (hour, cs) ← short? (← skip? 'T' cs)
  let (minute, cs) ← short? (← skip? ':' cs)
  let (second, cs) ← short? (← skip? ':' cs)
  let (nanos, cs) ← fraction? cs
  some (⟨⟨year, month, day⟩, hour, minute, second, nanos⟩, cs)

/-- An instant without an offset, filling the whole text. -/
def readNaive? (cs : List Char) : Option Instant :=
  match naive? cs with
  | some (clock, []) => Instant.ofClock? clock 0
  | _ => none

/-! ## The loose notation -/

/-- Blanks and colons, in any number. -/
def skipColons (cs : List Char) : Option (List Char) :=
  some (cs.dropWhile fun c => c = ':' || isBlank c)

/-- An offset, or the word `UTC` in any case. -/
def looseOffset? : Field Int := fun cs =>
  if eqIgnoringCase (cs.take 3) "utc".toList then some (0, cs.drop 3)
  else offset? skipColons cs

/-- A clock reading and an offset with blanks between the fields. -/
def loose? : Field (Clock × Int) := fun cs => do
  let (year, cs) ← year? cs
  let (month, cs) ← short? (← skip? '-' (trimStart cs))
  let (day, cs) ← short? (← skip? '-' (trimStart cs))
  let cs ← skip? 'T' cs <|> skip? 't' cs <|> skip? ' ' cs
  let (hour, cs) ← short? cs
  let (minute, cs) ← short? (← skip? ':' (trimStart cs))
  let (second, cs) ← short? (← skip? ':' (trimStart cs))
  let (nanos, cs) ← fraction? cs
  let (offset, cs) ← looseOffset? (trimStart cs)
  some ((⟨⟨year, month, day⟩, hour, minute, second, nanos⟩, offset), trimStart cs)

/-- An instant in the loose notation, filling the text up to blanks at its end. -/
def readLoose? (cs : List Char) : Option Instant :=
  match loose? cs with
  | some ((clock, offset), []) =>
    if offset.natAbs < 86400 then Instant.ofClock? clock offset else none
  | _ => none

/-- A number of seconds since 1970 in 64 bits. -/
def readSeconds? (cs : List Char) : Option Instant :=
  (readInt? (-9223372036854775808) 9223372036854775807 cs).bind Instant.ofSeconds?

/-- `timestamp_from_str`: an instant in the strict notation, the naive one, or as a number of
seconds, without the blanks around it. -/
def readInstant? (s : String) : Option Instant :=
  let cs := trim s.toList
  readStrict? cs <|> readNaive? cs <|> readSeconds? cs

end TickChart.Time
