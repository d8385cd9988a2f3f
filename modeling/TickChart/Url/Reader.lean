import TickChart.Url.Domain
import TickChart.Url.Path

/-!
# Reading addresses

Blanks and control characters around an address, and tabs and line breaks inside it, do not count,
with one exception behind a drive. What remains is read from left to right: the scheme, the
authority, the path, the query and the fragment. A relative address has no scheme and is not read.

* `Address.read`: the address of a text.
* `UrlError`: why a text is no address.
-/

namespace TickChart.Url

open TickChart.Text

/-- Why a text is no address. -/
inductive UrlError where
  | emptyHost
  | invalidDomain
  | invalidPort
  | invalidIpv4
  | invalidIpv6
  | invalidHostCharacter
  | relative
deriving DecidableEq

/-- The text of an error. -/
def UrlError.message : UrlError → String
  | emptyHost => "empty host"
  | invalidDomain => "invalid international domain name"
  | invalidPort => "invalid port number"
  | invalidIpv4 => "invalid IPv4 address"
  | invalidIpv6 => "invalid IPv6 address"
  | invalidHostCharacter => "invalid domain character"
  | relative => "relative URL without a base"

/-! ## Characters -/

/-- A control character of ASCII or a space. -/
def isPadding (c : Char) : Bool := c.toNat ≤ 0x20

/-- The text without the padding around it. -/
def unpadded (cs : List Char) : List Char :=
  ((cs.dropWhile isPadding).reverse.dropWhile isPadding).reverse

/-- The character ends an authority. -/
def endsAuthority (special : Bool) (c : Char) : Bool := isSeparator special c || endsPath c

/-- The character may stand in a scheme behind its first letter. -/
def isSchemeChar (c : Char) : Bool := isAsciiLetter c || isDigit c || c ∈ ['+', '-', '.']

/-- The scheme in lower case, and the text behind its colon. -/
def readScheme? (cs : List Char) : Option (List Char × List Char) :=
  match cs.takeWhile isSchemeChar, cs.dropWhile isSchemeChar with
  | first :: more, ':' :: rest =>
    if isAsciiLetter first then some (lowerAscii (first :: more), rest) else none
  | _, _ => none

/-! ## The parts behind the authority -/

/-- The path, the query and the fragment of a text, each with its mark left out. -/
def splitTail (cs : List Char) : List Char × Option (List Char) × Option (List Char) :=
  let path := cs.takeWhile (!endsPath ·)
  match cs.dropWhile (!endsPath ·) with
  | '?' :: rest =>
    match rest.dropWhile (· ≠ '#') with
    | _ :: fragment => (path, some (rest.takeWhile (· ≠ '#')), some fragment)
    | [] => (path, some rest, none)
  | _ :: fragment => (path, none, some fragment)
  | [] => (path, none, none)

/-! ## The authority -/

/-- A name for which no rules are known but the characters that it must not have. -/
def readName (cs : List Char) : Except UrlError Host :=
  if cs.any fun c =>
      c ∈ ['\x00', '\t', '\n', '\r', ' ', '#', '/', ':', '<', '>', '?', '@', '[', '\\', ']', '^',
        '|'] then
    .error .invalidHostCharacter
  else .ok (.name (percentEncode controlSet cs))

/-- An address between brackets. -/
def readBracketed (cs : List Char) : Except UrlError Host :=
  if cs.getLast? = some ']' then
    match readIpv6? (cs.drop 1).dropLast with
    | some pieces => .ok (.ipv6 pieces)
    | none => .error .invalidIpv6
  else .error .invalidIpv6

/-- A domain or a numeric address. -/
def readDomain (cs : List Char) : Except UrlError Host :=
  match (percentDecode? cs).bind domain? with
  | none => .error .invalidDomain
  | some [] => .error .emptyHost
  | some name =>
    if endsInNumber name then
      match readIpv4? name with
      | some address => .ok (.ipv4 address)
      | none => .error .invalidIpv4
    else .ok (.name name)

/-- The host of a text. -/
def readHost (special : Bool) (cs : List Char) : Except UrlError Host :=
  if cs.head? = some '[' then readBracketed cs
  else if special then
    if cs.isEmpty then .error .emptyHost else readDomain cs
  else readName cs

/-- The text before the first colon that is not between brackets, and the text from it on. -/
def splitPort (inside : Bool) : List Char → List Char × List Char
  | [] => ([], [])
  | c :: cs =>
    if c = ':' ∧ inside = false then ([], c :: cs)
    else
      let (host, rest) := splitPort (if c = '[' then true else if c = ']' then false else inside) cs
      (c :: host, rest)

/-- The digits of a port, and what follows them. A port that is the usual one, or that has no
digits, is left out. -/
def readPort (scheme cs : List Char) : Except UrlError (Option Nat × List Char) :=
  let ds := cs.takeWhile isDigit
  let rest := cs.dropWhile isDigit
  let n := (readDigits? ds).getD 0
  if 65535 < n then .error .invalidPort
  else if rest.head?.all fun c => c = '/' || c = '\\' || endsPath c then
    .ok (if ds.isEmpty ∨ usualPort? scheme = some n then none else some n, rest)
  else .error .invalidPort

/-- The text before and behind the last at sign. -/
def splitUser (cs : List Char) : Option (List Char) × List Char :=
  let host := (cs.reverse.takeWhile (· ≠ '@')).reverse
  if host.length = cs.length then (none, cs)
  else (some (cs.take (cs.length - host.length - 1)), host)

/-- The user's name and the password, encoded. -/
def readUser (cs : List Char) : List Char × List Char :=
  let name := cs.takeWhile (· ≠ ':')
  (percentEncode userinfoSet name, percentEncode userinfoSet (cs.drop (name.length + 1)))

/-- The authority at the front of a text, and the text behind it. -/
def readAuthority (scheme cs : List Char) : Except UrlError (Authority × List Char) := do
  let special := isSpecial scheme
  let (user, place) := splitUser (cs.takeWhile (!endsAuthority special ·))
  let rest := cs.dropWhile (!endsAuthority special ·)
  if user = some [] ∧ place = [] ∧ rest ≠ [] then .error .emptyHost
  let (username, password) := readUser (user.getD [])
  let (hostText, portText) := splitPort false place
  let host ← readHost special hostText
  let hasUser := !username.isEmpty || !password.isEmpty
  if host = .name [] ∧ (portText ≠ [] ∨ hasUser) then .error .emptyHost
  let (port, rest) ← match portText with
    | _ :: digits => readPort scheme (digits ++ rest)
    | [] => .ok (none, rest)
  .ok (⟨username, password, host, port⟩, rest)

/-! ## Hosts of files -/

/-- The text behind a separator at the front, if there is one. -/
def behindSeparator? (cs : List Char) : Option (List Char) :=
  match cs.dropWhile isStripped with
  | c :: rest => if isSeparator true c then some rest else none
  | [] => none

/-- The host of a file, which is mostly empty, and the text of the path. A drive is no host. Behind
an empty host the first slash is a segment of the path already. -/
def readFileHost (cs : List Char) : Except UrlError (Host × List Char) := do
  let text := withoutStripped (cs.takeWhile (!endsAuthority true ·))
  let rest := cs.dropWhile (!endsAuthority true ·)
  if isDrive text then .ok (.name [], cs)
  else if text.isEmpty then .ok (.name [], rest)
  else
    let host ← readHost true text
    .ok (if host = .name "localhost".toList then .name [] else host,
      (behindSeparator? rest).getD rest)

/-! ## The address -/

/-- The address with a path, a query and a fragment behind what was read. -/
def complete (scheme : List Char) (authority : Option Authority) (path : Path)
    (query fragment : Option (List Char)) : Address where
  scheme
  authority
  guarded :=
    match authority, path with
    | none, .segments ([] :: _ :: _) => true
    | _, _ => false
  path
  query := query.map (percentEncode (querySet (isSpecial scheme)))
  fragment := fragment.map (percentEncode fragmentSet)

/-- The address of a file. A drive alone in the first segment of the path leaves no host. -/
def readFile (cs : List Char) : Except UrlError Address := do
  let (host, rest) ←
    match behindSeparator? cs with
    | none => .ok (.name [], cs)
    | some behind =>
      match behindSeparator? behind with
      | none => .ok (.name [], behind)
      | some place => readFileHost place
  let (pathText, query, fragment) := splitTail rest
  let path := FilePath.read pathText
  let authority : Authority := ⟨[], [], if path.onDrive then .name [] else host, none⟩
  .ok (complete "file".toList (some authority) (.segments path.segments)
    (query.map withoutStripped) (fragment.map withoutStripped))

/-- The address of a text behind the scheme and two slashes. -/
def readServed (scheme cs : List Char) : Except UrlError Address := do
  let (authority, rest) ← readAuthority scheme cs
  let (pathText, query, fragment) := splitTail rest
  let path := readPath (isSpecial scheme) pathText
  .ok (complete scheme (some authority) (.segments path) query fragment)

/-- The address of a text behind a scheme that is not special. -/
def readUnserved (scheme cs : List Char) : Except UrlError Address :=
  match cs with
  | '/' :: '/' :: rest => readServed scheme rest
  | '/' :: rest =>
    let (pathText, query, fragment) := splitTail rest
    .ok (complete scheme none (.segments (readSegments false pathText)) query fragment)
  | _ =>
    let (pathText, query, fragment) := splitTail cs
    .ok (complete scheme none (.rootless (percentEncode controlSet pathText)) query fragment)

namespace Address

/-- The address of characters without padding. -/
def ofChars (cs : List Char) : Except UrlError Address :=
  match readScheme? (withoutStripped cs) with
  | none => .error .relative
  | some (scheme, rest) =>
    if isFile scheme then readFile ((cs.dropWhile (· ≠ ':')).drop 1)
    else if isSpecial scheme then readServed scheme (rest.dropWhile (isSeparator true))
    else readUnserved scheme rest

/-- The address of a text. -/
def read (s : String) : Except UrlError Address := ofChars (unpadded s.toList)

end Address

end TickChart.Url
