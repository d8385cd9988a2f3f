import TickChart.Text.Blank
import TickChart.Text.Integer

/-!
# Numeric addresses

* `readIpv4?`: an address of four bytes, in up to four parts that may be decimal, octal or
  hexadecimal. The last part fills what the others leave.
* `readIpv6?`: an address of eight pieces of sixteen bits, of which one run of zeros may be left out
  and the last two may be written like the four bytes of the other kind.
* `ipv4Chars`, `ipv6Chars`: the usual notation. The first longest run of at least two zero pieces
  is left out.
-/

namespace TickChart.Url

open TickChart.Text

/-- The parts of a text between points. -/
def dotted (cs : List Char) : List (List Char) := splitOn (· = '.') cs

/-- The number that digits of a base write, at least one of them. -/
def readBase? (base : Nat) (cs : List Char) : Option Nat :=
  (cs.mapM fun c => (hexDigit? c).filter (· < base)).map (·.foldl (fun n d => base * n + d) 0)

/-- A part of an address: hexadecimal behind `0x`, octal behind `0`, and else decimal. The `0` or
`0x` alone is zero. -/
def readPart? (cs : List Char) : Option Nat :=
  match cs with
  | [] => none
  | '0' :: 'x' :: rest => readBase? 16 rest
  | '0' :: 'X' :: rest => readBase? 16 rest
  | '0' :: d :: rest => readBase? 8 (d :: rest)
  | cs => readBase? 10 cs

/-- The parts without an empty one at the end. -/
def withoutEmptyEnd (parts : List (List Char)) : List (List Char) :=
  if parts.getLast? = some [] then parts.dropLast else parts

/-- The last part of a name that is not empty is a number, so that the name has to be an address. -/
def endsInNumber (cs : List Char) : Bool :=
  match (withoutEmptyEnd (dotted cs)).getLast? with
  | some part => (!part.isEmpty && part.all isDigit) || (readPart? part).isSome
  | none => false

/-- An address of four bytes, as one number. -/
def readIpv4? (cs : List Char) : Option Nat := do
  let parts := withoutEmptyEnd (dotted cs)
  if 4 < parts.length then none
  let numbers ← parts.mapM readPart?
  let last ← numbers.getLast?
  let leading := numbers.dropLast
  if leading.any (255 < ·) || twoTo (8 * (4 - leading.length)) ≤ last then none
  some (leading.foldl (fun n b => 256 * n + b) 0 * twoTo (8 * (4 - leading.length)) + last)

/-- Four bytes, the first of them the highest. -/
def ipv4Chars (n : Nat) : List Char :=
  digits (n / 16777216 % 256) ++ '.' :: digits (n / 65536 % 256) ++ '.' :: digits (n / 256 % 256)
    ++ '.' :: digits (n % 256)

/-- A decimal byte without leading zeros. -/
def readByte? (cs : List Char) : Option Nat :=
  match cs with
  | ['0'] => some 0
  | '0' :: _ => none
  | cs => (readDigits? cs).filter (· ≤ 255)

/-- Two pieces that are written as four bytes. -/
def readTailBytes? (cs : List Char) : Option (List Nat) := do
  match ← (dotted cs).mapM readByte? with
  | [a, b, c, d] => some [256 * a + b, 256 * c + d]
  | _ => none

/-- A piece of one to four hexadecimal digits. -/
def readPiece? (cs : List Char) : Option Nat :=
  if cs.isEmpty || 4 < cs.length then none else readBase? 16 cs

/-- Pieces between colons. The last one may be written as four bytes. -/
def readPieces? : List (List Char) → Option (List Nat)
  | [] => some []
  | [part] => if '.' ∈ part then readTailBytes? part else (readPiece? part).map ([·])
  | part :: parts => do some ((← readPiece? part) :: (← readPieces? parts))

/-- The text before and behind the first `::`. -/
def splitGap : List Char → List Char × Option (List Char)
  | ':' :: ':' :: rest => ([], some rest)
  | c :: rest => let (before, behind) := splitGap rest; (c :: before, behind)
  | [] => ([], none)

/-- Pieces on one side of a gap, of which there may be none. -/
def readSide? (cs : List Char) : Option (List Nat) :=
  if cs.isEmpty then some [] else readPieces? (splitOn (· = ':') cs)

/-- An address of eight pieces. -/
def readIpv6? (cs : List Char) : Option (List Nat) := do
  match splitGap cs with
  | (all, none) =>
    let pieces ← readPieces? (splitOn (· = ':') all)
    if pieces.length = 8 then some pieces else none
  | (before, some behind) =>
    if '.' ∈ before then none
    let high ← readSide? before
    let low ← readSide? behind
    if high.length + low.length < 8 then
      some (high ++ List.replicate (8 - high.length - low.length) 0 ++ low)
    else none

/-- The number of zeros at the front of pieces. -/
def zeroRun (pieces : List Nat) : Nat := (pieces.takeWhile (· = 0)).length

/-- The place and the length of the first longest run of at least two zeros. -/
def longestGap (pieces : List Nat) : Option (Nat × Nat) :=
  (List.range pieces.length).foldl (fun best i =>
    let n := zeroRun (pieces.drop i)
    if n < 2 then best
    else
      match best with
      | some (_, m) => if m < n then some (i, n) else best
      | none => some (i, n)) none

/-- The digits of a piece. -/
def hexDigits (n : Nat) : List Char :=
  if n < 16 then [hexChar n] else hexDigits (n / 16) ++ [hexChar (n % 16)]
termination_by n
decreasing_by omega

/-- Pieces between colons. -/
def piecesChars (pieces : List Nat) : List Char :=
  [':'].intercalate (pieces.map hexDigits)

/-- Eight pieces between brackets. -/
def ipv6Chars (pieces : List Nat) : List Char :=
  '[' :: (match longestGap pieces with
    | some (i, n) =>
      piecesChars (pieces.take i) ++ ':' :: ':' :: piecesChars (pieces.drop (i + n))
    | none => piecesChars pieces) ++ [']']

end TickChart.Url
