/-!
# UTF-8

* `utf8Bytes`: the one to four bytes of a character.
* `decodeUtf8?`: the characters of bytes; there are none for bytes that no text has.
* `decodeUtf8?_flatMap`: every text is read back from its bytes.
-/

namespace TickChart.Text

/-- The bytes of a character. -/
def utf8Bytes (c : Char) : List Nat :=
  let n := c.toNat
  if n < 0x80 then [n]
  else if n < 0x800 then [0xC0 + n / 64, 0x80 + n % 64]
  else if n < 0x10000 then [0xE0 + n / 4096, 0x80 + n / 64 % 64, 0x80 + n % 64]
  else [0xF0 + n / 262144, 0x80 + n / 4096 % 64, 0x80 + n / 64 % 64, 0x80 + n % 64]

/-- The number of bytes that follow a first byte. -/
def followers (first : Nat) : Nat :=
  if first < 0xC0 then 0 else if first < 0xE0 then 1 else if first < 0xF0 then 2 else 3

/-- The bits that a first byte gives to its character. -/
def leadBits (first : Nat) : Nat :=
  if first < 0x80 then first
  else if first < 0xE0 then first % 0x20
  else if first < 0xF0 then first % 0x10
  else first % 0x08

/-- The character that has these bytes. -/
def charOfBytes? (first : Nat) (rest : List Nat) : Option Char :=
  let c := Char.ofNat (rest.foldl (fun n b => 64 * n + b % 64) (leadBits first))
  if utf8Bytes c = first :: rest then some c else none

/-- The characters of bytes. -/
def decodeUtf8? : List Nat → Option (List Char)
  | [] => some []
  | first :: rest =>
    match charOfBytes? first (rest.take (followers first)) with
    | some c => (decodeUtf8? (rest.drop (followers first))).map (c :: ·)
    | none => none
termination_by bytes => bytes.length
decreasing_by
  simp only [List.length_drop, List.length_cons]
  omega

theorem toNat_lt (c : Char) : c.toNat < 0x110000 := by
  rcases c.valid with h | h
  · have : c.toNat < 0xD800 := h
    omega
  · exact h.2

/-- The bytes of a character are a first byte and its followers, and lead back to it. -/
theorem utf8Bytes_eq_cons (c : Char) :
    ∃ first rest, utf8Bytes c = first :: rest ∧ rest.length = followers first ∧
      rest.foldl (fun n b => 64 * n + b % 64) (leadBits first) = c.toNat := by
  have hlt := toNat_lt c
  simp only [utf8Bytes]
  -- One byte up to four, each case below the bound at which the first byte changes its form.
  split
  · next h =>
    refine ⟨_, _, rfl, ?_, ?_⟩
    · rw [followers, if_pos (by omega)]; rfl
    · simp [leadBits, h]
  · split
    · next h₁ h₂ =>
      refine ⟨_, _, rfl, ?_, ?_⟩
      · rw [followers, if_neg (by omega), if_pos (by omega)]; rfl
      · rw [leadBits, if_neg (by omega), if_pos (by omega)]
        simp only [List.foldl]
        omega
    · split
      · next h₁ h₂ h₃ =>
        refine ⟨_, _, rfl, ?_, ?_⟩
        · rw [followers, if_neg (by omega), if_neg (by omega), if_pos (by omega)]; rfl
        · rw [leadBits, if_neg (by omega), if_neg (by omega), if_pos (by omega)]
          simp only [List.foldl]
          omega
      · next h₁ h₂ h₃ =>
        refine ⟨_, _, rfl, ?_, ?_⟩
        · rw [followers, if_neg (by omega), if_neg (by omega), if_neg (by omega)]; rfl
        · rw [leadBits, if_neg (by omega), if_neg (by omega), if_neg (by omega)]
          simp only [List.foldl]
          omega

theorem decodeUtf8?_utf8Bytes_append (c : Char) (bytes : List Nat) :
    decodeUtf8? (utf8Bytes c ++ bytes) = (decodeUtf8? bytes).map (c :: ·) := by
  obtain ⟨first, rest, hb, hlen, hval⟩ := utf8Bytes_eq_cons c
  have hc : charOfBytes? first rest = some c := by
    simp only [charOfBytes?, hval, Char.ofNat_toNat, hb, if_true]
  rw [hb, List.cons_append, decodeUtf8?]
  simp [← hlen, hc]

/-- Every text is read back from its bytes. -/
theorem decodeUtf8?_flatMap (cs : List Char) : decodeUtf8? (cs.flatMap utf8Bytes) = some cs := by
  induction cs with
  | nil => simp [decodeUtf8?]
  | cons c cs ih => simp [decodeUtf8?_utf8Bytes_append, ih]

end TickChart.Text
