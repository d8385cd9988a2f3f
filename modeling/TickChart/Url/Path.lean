import TickChart.Url.Basic
import TickChart.Url.Percent

/-!
# Paths

* `addSegment`: a path after one more segment. Two dots take the last segment away, but no drive.
* `readPath`: the path of a text.
* `FilePath.read`: the path of a file, which may begin with a drive.
* `Address.extend?`: the address with segments behind its path, each of them encoded as a whole.
* `Address.withPairs`: the address with names and values behind its query.
-/

namespace TickChart.Url

open TickChart.Text

/-! ## Characters -/

/-- A tab or a part of a line break. -/
def isStripped (c : Char) : Bool := c = '\t' || c = '\n' || c = '\r'

/-- The characters of a text that count. -/
def withoutStripped (cs : List Char) : List Char := cs.filter (!isStripped ·)

/-- The character separates segments. -/
def isSeparator (special : Bool) (c : Char) : Bool := c = '/' || (special && c = '\\')

/-- The character begins a query or a fragment. -/
def endsPath (c : Char) : Bool := c = '?' || c = '#'

/-! ## Segments -/

/-- A letter and a colon or a bar. -/
def isDrive : List Char → Bool
  | [letter, mark] => isAsciiLetter letter && (mark = ':' || mark = '|')
  | _ => false

/-- The drive with a colon. -/
def canonicalDrive (segment : List Char) : List Char := segment.take 1 ++ [':']

/-- A segment that leads to the same place. -/
def isSingleDot (segment : List Char) : Bool :=
  lowerAscii segment ∈ [".".toList, "%2e".toList]

/-- A segment that leads one place up. -/
def isDoubleDot (segment : List Char) : Bool :=
  lowerAscii segment ∈ ["..".toList, ".%2e".toList, "%2e.".toList, "%2e%2e".toList]

/-- The segments without the last one. A drive stays. -/
def shorten (segments : List (List Char)) : List (List Char) :=
  if segments.getLast?.any isDrive then segments else segments.dropLast

/-- The segments after one more, whose characters are encoded. Behind dots at the end of a path
there is an empty segment. -/
def addSegment (last : Bool) (segments : List (List Char)) (s : List Char) :
    List (List Char) :=
  if isDoubleDot s then shorten segments ++ if last then [[]] else []
  else if isSingleDot s then segments ++ if last then [[]] else []
  else segments ++ [s]

/-- The result of a step for each of several segments, which is told which one is the last. -/
def foldSegments {α : Type} (step : Bool → α → List Char → α) (start : α) : List (List Char) → α
  | [] => start
  | [s] => step true start s
  | s :: more => foldSegments step (step false start s) more

/-- The segments of a text that begins behind the first slash. -/
def readSegments (special : Bool) (cs : List Char) : List (List Char) :=
  foldSegments addSegment [] ((splitOn (isSeparator special) cs).map (percentEncode pathSet))

/-- The path of a text that stands behind an authority. -/
def readPath (special : Bool) (cs : List Char) : List (List Char) :=
  match cs with
  | [] => if special then [[]] else []
  | c :: rest => readSegments special (if isSeparator special c then rest else c :: rest)

/-! ## Paths of files

The path of a file may begin with a drive, which is a segment of its own. Here a tab or a line break
counts: behind a drive it ends the segment.
-/

/-- The path of a file while it is read. -/
structure FilePath where
  segments : List (List Char)
  /-- The path begins with a drive that stood alone in its segment. -/
  onDrive : Bool

/-- The drive at the front of a segment and the text behind it, if a tab or a line break stands
between them. -/
def splitDrive? (cs : List Char) : Option (List Char × List Char) :=
  match cs.dropWhile isStripped with
  | letter :: rest =>
    match rest.dropWhile isStripped with
    | ':' :: mark :: more =>
      let behind := withoutStripped more
      if isAsciiLetter letter && isStripped mark && !behind.isEmpty then
        some ([letter, ':'], behind)
      else none
    | _ => none
  | [] => none

/-- The path after one more segment. Only as the first segment a drive is written with a colon. -/
def FilePath.add (last : Bool) (p : FilePath) (cs : List Char) : FilePath :=
  let s := percentEncode pathSet (withoutStripped cs)
  if p.segments.isEmpty then
    if isDrive s then ⟨[canonicalDrive s], true⟩
    else
      match splitDrive? cs with
      | some (drive, behind) => { p with segments := [drive, percentEncode pathSet behind] }
      | none => { p with segments := addSegment last [] s }
  else { p with segments := addSegment last p.segments s }

/-- The segments without empty ones at the front, except for a last one. -/
def withoutEmptyFront : List (List Char) → List (List Char)
  | [] :: s :: more => withoutEmptyFront (s :: more)
  | segments => segments

/-- The path of a text that begins behind the first slash. -/
def FilePath.read (cs : List Char) : FilePath :=
  let path := foldSegments add ⟨[], false⟩ (splitOn (isSeparator true) cs)
  { path with segments := withoutEmptyFront path.segments }

/-! ## Extension -/

/-- The segments without an empty one at the end. A lone empty segment stays. -/
def withoutEmptyLast (segments : List (List Char)) : List (List Char) :=
  if 2 ≤ segments.length ∧ segments.getLast? = some [] then segments.dropLast else segments

/-- The segments with one more behind them. It takes the place of a lone empty segment. Dots are
left out; tabs and line breaks do not count. -/
def appendSegment (special : Bool) (segments : List (List Char)) (text : List Char) :
    List (List Char) :=
  if text = ".".toList ∨ text = "..".toList then segments
  else
    addSegment true (if segments = [[]] then [] else segments)
      (percentEncode (segmentSet special) (withoutStripped text))

namespace Address

/-- The address with segments behind its path, in place of an empty last segment. An undivided path
cannot be extended. -/
def extend? (a : Address) (texts : List String) : Option Address :=
  match a.path with
  | .rootless _ => none
  | .segments ss =>
    some { a with
      path := .segments ((texts.map String.toList).foldl (appendSegment (isSpecial a.scheme))
        (withoutEmptyLast ss)) }

/-- A name and a value in a query. -/
def pairChars (pair : String × String) : List Char :=
  formEncode pair.1.toList ++ '=' :: formEncode pair.2.toList

/-- The address with names and values behind its query. -/
def withPairs (a : Address) (pairs : List (String × String)) : Address :=
  let more := ['&'].intercalate (pairs.map pairChars)
  match a.query with
  | some (c :: cs) => { a with query := some (c :: cs ++ '&' :: more) }
  | _ => { a with query := some more }

end Address

end TickChart.Url
