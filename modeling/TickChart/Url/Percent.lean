import TickChart.Text.Ascii
import TickChart.Text.Utf8

/-!
# Percent-encoding

A character that may not stand at a place of an address is written as its bytes, each as a percent
sign and two hexadecimal digits.

* `pathSet`, `segmentSet`, `userinfoSet`, `querySet`, `fragmentSet`: the characters that are encoded
  at each place. All characters beyond ASCII are.
* `percentEncode`: a text with the characters of a set encoded.
* `percentBytes`, `percentDecode?`: the bytes and the text that an encoded text stands for.
* `percentDecode?_percentEncode`: a text is read back if its percent signs were encoded.
* `formEncode`: the encoding of the names and values of a query.
-/

namespace TickChart.Url

open TickChart.Text

/-- A control character, or a character beyond ASCII. -/
def controlSet (c : Char) : Bool := c.toNat < 0x20 || 0x7F ≤ c.toNat

/-- Encoded in a fragment. -/
def fragmentSet (c : Char) : Bool := controlSet c || c ∈ [' ', '"', '<', '>', '\x60']

/-- Encoded in a path. -/
def pathSet (c : Char) : Bool := fragmentSet c || c ∈ ['#', '?', '\x7b', '\x7d']

/-- Encoded in a segment that is put into a path as a whole. Where a backslash separates segments
it is encoded too. -/
def segmentSet (special : Bool) (c : Char) : Bool :=
  pathSet c || c = '/' || c = '%' || (special && c = '\\')

/-- Encoded in a user's name and password. -/
def userinfoSet (c : Char) : Bool :=
  pathSet c || c ∈ ['/', ':', ';', '=', '@', '[', '\\', ']', '^', '|']

/-- Encoded in a query. -/
def querySet (special : Bool) (c : Char) : Bool :=
  controlSet c || c ∈ [' ', '"', '#', '<', '>'] || (special && c = '\'')

/-- The character of a hexadecimal digit, in upper case. -/
def upperHexChar (n : Nat) : Char := (hexChar n).toUpper

/-- A byte as a percent sign and two digits. -/
def percentByte (b : Nat) : List Char := ['%', upperHexChar (b / 16), upperHexChar (b % 16)]

/-- A character, encoded if it is in the set. -/
def percentChar (set : Char → Bool) (c : Char) : List Char :=
  if set c then (utf8Bytes c).flatMap percentByte else [c]

/-- The text with the characters of the set encoded. -/
def percentEncode (set : Char → Bool) (cs : List Char) : List Char := cs.flatMap (percentChar set)

/-- The bytes of an encoded text. A percent sign without two digits behind it stands for itself. -/
def percentBytes : List Char → List Nat
  | [] => []
  | '%' :: a :: b :: cs =>
    match hexDigit? a, hexDigit? b with
    | some x, some y => (16 * x + y) :: percentBytes cs
    | _, _ => utf8Bytes '%' ++ percentBytes (a :: b :: cs)
  | c :: cs => utf8Bytes c ++ percentBytes cs

/-- The text that an encoded text stands for, if its bytes are those of a text. -/
def percentDecode? (cs : List Char) : Option (List Char) := decodeUtf8? (percentBytes cs)

/-- The encoding of a name or a value in a query. -/
def formEncode (cs : List Char) : List Char :=
  cs.flatMap fun c =>
    if c = ' ' then ['+']
    else if isAsciiLetter c || isDigit c || c ∈ ['*', '-', '.', '_'] then [c]
    else (utf8Bytes c).flatMap percentByte

theorem hexDigit?_upperHexChar {n : Nat} (h : n < 16) : hexDigit? (upperHexChar n) = some n := by
  have hall : ∀ m ∈ List.range 16, hexDigit? (upperHexChar m) = some m := by decide
  exact hall n (List.mem_range.2 h)

theorem percentBytes_percentByte_append {b : Nat} (h : b < 256) (cs : List Char) :
    percentBytes (percentByte b ++ cs) = b :: percentBytes cs := by
  simp only [percentByte, List.cons_append, List.nil_append, percentBytes,
    hexDigit?_upperHexChar (show b / 16 < 16 by omega),
    hexDigit?_upperHexChar (show b % 16 < 16 by omega)]
  congr 1
  omega

theorem percentBytes_cons {c : Char} (h : c ≠ '%') (cs : List Char) :
    percentBytes (c :: cs) = utf8Bytes c ++ percentBytes cs := by
  rw [percentBytes]
  rintro _ _ _ rfl
  exact (h rfl).elim

theorem lt_of_mem_utf8Bytes {c : Char} {b : Nat} (h : b ∈ utf8Bytes c) : b < 256 := by
  have hlt := toNat_lt c
  simp only [utf8Bytes] at h
  split at h
  · simp at h; omega
  · split at h
    · simp at h; omega
    · split at h <;> simp at h <;> omega

theorem percentBytes_flatMap_append (bytes : List Nat) (h : ∀ b ∈ bytes, b < 256)
    (cs : List Char) :
    percentBytes (bytes.flatMap percentByte ++ cs) = bytes ++ percentBytes cs := by
  induction bytes with
  | nil => rfl
  | cons b bytes ih =>
    rw [List.flatMap_cons, List.append_assoc, percentBytes_percentByte_append (h b (by simp)),
      ih fun x hx => h x (by simp [hx])]
    rfl

/-- A text is read back if its percent signs were encoded. -/
theorem percentDecode?_percentEncode {set : Char → Bool} (h : set '%' = true) (cs : List Char) :
    percentDecode? (percentEncode set cs) = some cs := by
  have hb : ∀ cs, percentBytes (percentEncode set cs) = cs.flatMap utf8Bytes := by
    intro cs
    induction cs with
    | nil => rfl
    | cons c cs ih =>
      rw [percentEncode, List.flatMap_cons, List.flatMap_cons, percentChar, ← ih]
      split
      · rw [percentBytes_flatMap_append _ fun b hb => lt_of_mem_utf8Bytes hb]
        rfl
      · next hc =>
        rw [List.singleton_append, percentBytes_cons (by rintro rfl; exact hc h)]
        rfl
  rw [percentDecode?, hb, decodeUtf8?_flatMap]

end TickChart.Url
