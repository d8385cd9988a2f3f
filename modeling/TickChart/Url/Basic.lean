import TickChart.Url.Address

/-!
# Addresses of resources

* `Address`: a scheme, perhaps an authority, a path, and perhaps a query and a fragment, each with
  its characters encoded as they stand in the text.
* `isSpecial`: the schemes for which a backslash separates segments too and the path is never empty.
* `Address.text`: the address as text.
-/

namespace TickChart.Url

/-- What an authority leads to. -/
inductive Host where
  /-- A name; the empty name is no host. -/
  | name (text : List Char)
  /-- Four bytes, as one number. -/
  | ipv4 (address : Nat)
  /-- Eight pieces of sixteen bits. -/
  | ipv6 (pieces : List Nat)
deriving DecidableEq

/-- The text of a host. -/
def Host.chars : Host → List Char
  | name text => text
  | ipv4 address => ipv4Chars address
  | ipv6 pieces => ipv6Chars pieces

/-- Where a resource is served. -/
structure Authority where
  username : List Char
  password : List Char
  host : Host
  port : Option Nat
deriving DecidableEq

namespace Authority

/-- The user's name and password, with an at sign behind them if there is any. -/
def userChars (a : Authority) : List Char :=
  if a.username.isEmpty && a.password.isEmpty then []
  else a.username ++ (if a.password.isEmpty then [] else ':' :: a.password) ++ ['@']

/-- The port behind a colon, if it is not the usual one. -/
def portChars (a : Authority) : List Char :=
  match a.port with
  | some n => ':' :: Text.digits n
  | none => []

/-- The text of an authority. -/
def chars (a : Authority) : List Char := a.userChars ++ a.host.chars ++ a.portChars

end Authority

/-- A path. -/
inductive Path where
  /-- A text that is not divided. Nothing can be appended to it. -/
  | rootless (text : List Char)
  /-- Segments, each with a slash before it. -/
  | segments (segments : List (List Char))
deriving DecidableEq

/-- The text of a path. -/
def Path.chars : Path → List Char
  | rootless text => text
  | segments ss => ss.flatMap ('/' :: ·)

/-- An address. -/
structure Address where
  scheme : List Char
  authority : Option Authority
  /-- A dot segment stands before the path. It keeps an empty first segment of the path from being
  read as the start of an authority. -/
  guarded : Bool
  path : Path
  query : Option (List Char)
  fragment : Option (List Char)
deriving DecidableEq

/-- The special schemes with their usual ports. -/
def specialPorts : List (List Char × Option Nat) :=
  [("http".toList, some 80), ("https".toList, some 443), ("ws".toList, some 80),
   ("wss".toList, some 443), ("ftp".toList, some 21), ("file".toList, none)]

/-- The scheme is a special one. -/
def isSpecial (scheme : List Char) : Bool := specialPorts.any (·.1 = scheme)

/-- The scheme is that of files. -/
def isFile (scheme : List Char) : Bool := scheme = "file".toList

/-- The usual port of a scheme. -/
def usualPort? (scheme : List Char) : Option Nat := (specialPorts.lookup scheme).join

/-- A text behind a mark, or nothing. -/
def marked (mark : Char) : Option (List Char) → List Char
  | some cs => mark :: cs
  | none => []

namespace Address

/-- What stands between the scheme and the path: the authority, or the dot segment that guards the
path. -/
def authorityChars (a : Address) : List Char :=
  match a.authority with
  | some authority => '/' :: '/' :: authority.chars
  | none => if a.guarded then ['/', '.'] else []

/-- The address as text. -/
def chars (a : Address) : List Char :=
  a.scheme ++ ':' :: a.authorityChars ++ a.path.chars ++ marked '?' a.query
    ++ marked '#' a.fragment

/-- The address as text. -/
def text (a : Address) : String := String.ofList a.chars

/-- What a request for the resource asks the server for: the path and the query. -/
def target (a : Address) : String := String.ofList (a.path.chars ++ marked '?' a.query)

end Address

end TickChart.Url
