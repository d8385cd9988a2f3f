import TickChart.Json.Document
import TickChart.Proofs.Digits

/-!
# Documents, written and read

A document that is written as compact text is read back from it: whatever texts it holds, whatever
names its members have, and however deep it is.

* `unquote?_quoted`, `textOf?_map_toNat`: strings, with all their escapes.
* `Literal.Proper`, `literal?_append`: numbers as JSON writes them, up to the first character that
  cannot belong to them. `number?_ofInt`: what those of integers stand for.
* `Document.Proper`: documents whose numbers are all proper.
* `value?_append`, `items?_append`, `members?_append`: by induction on the document, with a bound on
  the depth that its own length meets.
* `Document.read?_text`: every proper document.
-/

namespace TickChart.Json

open TickChart.Text

/-! ## Strings -/

variable {rest : List Char}

/-- The units of a string with one more in front. -/
def pushUnit (unit : Nat) : List Nat × List Char → List Nat × List Char
  | (units, rest) => (unit :: units, rest)

theorem hexDigit?_hexChar : ∀ d < 16, hexDigit? (hexChar d) = some d := by decide

/-- A control character is escaped by its value. -/
theorem hexUnit?_of_lt {n : Nat} (h : n < 32) :
    hexUnit? '0' '0' (hexChar (n / 16)) (hexChar (n % 16)) = some n := by
  have hzero : hexDigit? '0' = some 0 := by decide
  simp only [hexUnit?, hzero, hexDigit?_hexChar (n / 16) (by omega),
    hexDigit?_hexChar (n % 16) (by omega), Option.bind_eq_bind, Option.bind_some, Option.some.injEq]
  omega

theorem unquote?_letter {letter c : Char} (h : unescape? letter = some c) (rest : List Char) :
    unquote? ('\\' :: letter :: rest) = (unquote? rest).map (pushUnit c.toNat) := by
  rw [unquote?]
  · rw [h, Option.bind_eq_bind, Option.bind_some]
    cases unquote? rest <;> rfl
  · rintro _ _ _ _ _ rfl -
    cases h

theorem unquote?_unit {a b c d : Char} {unit : Nat} (h : hexUnit? a b c d = some unit)
    (rest : List Char) :
    unquote? ('\\' :: 'u' :: a :: b :: c :: d :: rest) = (unquote? rest).map (pushUnit unit) := by
  rw [unquote?, h, Option.bind_eq_bind, Option.bind_some]
  cases unquote? rest <;> rfl

theorem unquote?_plain {c : Char} (hquote : c ≠ '"') (hslash : c ≠ '\\') (hcontrol : 32 ≤ c.toNat)
    (rest : List Char) : unquote? (c :: rest) = (unquote? rest).map (pushUnit c.toNat) := by
  rw [unquote?]
  · rw [if_neg (by simp [hslash, hcontrol])]
    cases unquote? rest <;> rfl
  · exact hquote
  · exact fun _ _ _ _ _ h => absurd h hslash
  · exact fun _ _ h => absurd h hslash

/-- An escaped character is read as itself. -/
theorem unquote?_escape (c : Char) (rest : List Char) :
    unquote? (escape c ++ rest) = (unquote? rest).map (pushUnit c.toNat) := by
  unfold escape
  split
  · next h => subst h; exact unquote?_letter rfl rest
  split
  · next h => subst h; exact unquote?_letter rfl rest
  split
  · next h => subst h; exact unquote?_letter rfl rest
  split
  · next h => subst h; exact unquote?_letter rfl rest
  split
  · next h => subst h; exact unquote?_letter rfl rest
  split
  · next h => subst h; exact unquote?_letter rfl rest
  split
  · next h => subst h; exact unquote?_letter rfl rest
  split
  · next hcontrol => exact unquote?_unit (hexUnit?_of_lt hcontrol) rest
  · next hquote hslash _ _ _ _ _ hcontrol =>
    exact unquote?_plain hquote hslash (Nat.not_lt.mp hcontrol) rest

/-- What is between quotes is read up to the closing one. -/
theorem unquote?_quoted (cs : List Char) (rest : List Char) :
    unquote? (cs.flatMap escape ++ '"' :: rest) = some (cs.map Char.toNat, rest) := by
  induction cs with
  | nil => rfl
  | cons c cs ih =>
    rw [List.flatMap_cons, List.append_assoc, unquote?_escape, ih]
    rfl

/-- The units of characters that are not surrogates name them. -/
theorem charsOf?_map_toNat (cs : List Char) : charsOf? (cs.map Char.toNat) = some cs := by
  induction cs with
  | nil => rfl
  | cons c cs ih =>
    have hvalid : c.toNat < 0xD800 ∨ 0xDFFF < c.toNat := c.valid.imp_right And.left
    have hhigh : isHighHalf c.toNat = false := by
      simp only [isHighHalf, Bool.and_eq_false_iff, decide_eq_false_iff_not]
      omega
    have hlow : isLowHalf c.toNat = false := by
      simp only [isLowHalf, Bool.and_eq_false_iff, decide_eq_false_iff_not]
      omega
    rw [List.map_cons]
    unfold charsOf?
    simp [hhigh, hlow, ih]

theorem textOf?_map_toNat (s : String) : textOf? (s.toList.map Char.toNat) = some s := by
  rw [textOf?, charsOf?_map_toNat, Option.map_some, String.ofList_toList]

/-! ## Numbers -/

/-- The text does not begin with what a number could go on with. -/
def NumberEnds (rest : List Char) : Prop :=
  NoDigit rest ∧ ∀ c ∈ rest.head?, c ≠ '.' ∧ c ≠ 'e' ∧ c ≠ 'E'

namespace Literal

/-- The literal is one that JSON has: digits before the point, the first of them a zero only if it
is the only one. -/
structure Proper (l : Literal) : Prop where
  whole_ne_nil : l.whole ≠ []
  whole_lt : ∀ d ∈ l.whole, d < 10
  whole_zero : ∀ ds, l.whole = 0 :: ds → ds = []
  part_lt : ∀ d ∈ l.part, d < 10

theorem whole_ofInt (n : Int) : (ofInt n).whole = digitsOf n.natAbs := by
  simp only [ofInt, digits_eq, digitValues?_written lt_ten_of_mem_digitsOf, Option.getD_some]

theorem proper_ofInt (n : Int) : (ofInt n).Proper := by
  refine ⟨?_, ?_, ?_, fun _ hd => nomatch hd⟩
  · rw [whole_ofInt]
    exact digitsOf_ne_nil _
  · rw [whole_ofInt]
    exact lt_ten_of_mem_digitsOf
  · intro ds hds
    rw [whole_ofInt] at hds
    exact (digitsOf_eq_zero_cons hds).2

/-- An integer of 64 bits, signed or not, stands for itself. -/
theorem number?_ofInt {n : Int} (hleast : leastInt ≤ n) (hgreatest : n ≤ greatestInt) :
    (ofInt n).number? = some (.int n) := by
  have hpart : (ofInt n).part.isEmpty = true ∧ (ofInt n).exponent = none := ⟨rfl, rfl⟩
  have hnegative : (ofInt n).negative = decide (n < 0) := rfl
  simp only [number?, whole_ofInt, natOfDigits_digitsOf, if_pos hpart, hnegative]
  by_cases hneg : n < 0
  · have hnat : (n.natAbs : Int) ≠ 0 ∧ leastInt ≤ -n.natAbs := by omega
    rw [if_pos (decide_eq_true hneg), if_pos hnat]
    congr 2
    omega
  · have hnat : (n.natAbs : Int) ≤ greatestInt := by omega
    rw [if_neg (by simpa using hneg), if_pos hnat]
    congr 2
    omega

/-- The point and the digits behind it. -/
def partChars (part : List Nat) : List Char := if part.isEmpty then [] else '.' :: written part

/-- The exponent behind its letter. -/
def exponentChars : Option Int → List Char
  | none => []
  | some e => 'e' :: intDigits e

theorem chars_eq (l : Literal) :
    l.chars = (if l.negative then ['-'] else []) ++ (written l.whole ++
      (partChars l.part ++ exponentChars l.exponent)) := by
  rw [chars, List.append_assoc, List.append_assoc]
  cases l.exponent <;> rfl

end Literal

namespace Document

open Literal (partChars exponentChars)

variable {ds part : List Nat} {l : Literal}

theorem wholeDigits?_append (h : l.Proper) (hrest : NoDigit rest) :
    wholeDigits? (written l.whole ++ rest) = some (l.whole, rest) := by
  unfold wholeDigits?
  split
  · next more heq =>
    cases hwhole : l.whole with
    | nil => exact absurd hwhole h.whole_ne_nil
    | cons d ds =>
      rw [hwhole, written_cons, List.cons_append, List.cons.injEq] at heq
      have hd := digit?_digitChar (h.whole_lt d (by simp [hwhole]))
      rw [heq.1] at hd
      obtain rfl : 0 = d := Option.some.inj hd
      obtain rfl := h.whole_zero ds hwhole
      rw [← heq.2]
      rfl
  · rw [spanDigits_append h.whole_lt hrest]
    simp [h.whole_ne_nil]

theorem partDigits?_append (hpart : ∀ d ∈ part, d < 10) (hrest : NoDigit rest)
    (hpoint : ∀ c ∈ rest.head?, c ≠ '.') :
    partDigits? (partChars part ++ rest) = some (part, rest) := by
  cases part with
  | nil =>
    unfold partDigits?
    split
    · next more heq =>
      rw [show partChars [] ++ rest = rest from rfl] at heq
      exact absurd rfl (hpoint '.' (by rw [heq]; rfl))
    · rfl
  | cons d ds =>
    show partDigits? ('.' :: (written (d :: ds) ++ rest)) = some (d :: ds, rest)
    rw [partDigits?, spanDigits_append hpart hrest]
    rfl

theorem exponent?_append (e : Int) (hrest : NoDigit rest) :
    exponent? (intDigits e ++ rest) = some (e, rest) := by
  have hlt : ∀ d ∈ digitsOf e.natAbs, d < 10 := lt_ten_of_mem_digitsOf
  have hne := digitsOf_ne_nil e.natAbs
  have hspan := spanDigits_append hlt hrest
  simp only [intDigits, digits_eq]
  by_cases hneg : e < 0
  · rw [if_pos hneg]
    simp only [exponent?, List.cons_append, hspan, List.isEmpty_iff, hne, natOfDigits_digitsOf,
      ↓reduceIte, Option.some.injEq, Prod.mk.injEq, and_true]
    omega
  · rw [if_neg hneg]
    unfold exponent?
    split
    next negative cs hsign =>
      split at hsign
      · next heq => exact absurd heq (written_ne_cons hlt hne (by decide) _)
      · next heq => exact absurd heq (written_ne_cons hlt hne (by decide) _)
      · cases hsign
        simp only [hspan, List.isEmpty_iff, hne, natOfDigits_digitsOf, ↓reduceIte,
          Bool.false_eq_true, Option.some.injEq, Prod.mk.injEq, and_true]
        omega

theorem noDigit_exponentChars (exponent : Option Int) (hrest : NumberEnds rest) :
    NoDigit (exponentChars exponent ++ rest) ∧
      ∀ c ∈ (exponentChars exponent ++ rest).head?, c ≠ '.' := by
  cases exponent with
  | none => exact ⟨hrest.1, fun c hc => (hrest.2 c hc).1⟩
  | some e =>
    refine ⟨noDigit_cons (by decide), fun c hc => ?_⟩
    cases hc
    decide

theorem noDigit_partChars (part : List Nat) (hrest : NoDigit rest) :
    NoDigit (partChars part ++ rest) := by
  cases part with
  | nil => exact hrest
  | cons d ds => exact noDigit_cons (by decide)

/-- A number is read up to a character that cannot go on with it. -/
theorem literal?_append (h : l.Proper) (hrest : NumberEnds rest) :
    literal? (l.chars ++ rest) = some (l, rest) := by
  obtain ⟨negative, whole, part, exponent⟩ := l
  have hexponent := noDigit_exponentChars exponent hrest
  have hwhole := wholeDigits?_append h (noDigit_partChars part hexponent.1)
  have hpart := partDigits?_append h.part_lt hexponent.1 hexponent.2
  rw [Literal.chars_eq]
  unfold literal?
  split
  next negative' cs hsign =>
    -- The sign is the one that was written: no digit of the whole part is a minus.
    have hcs : negative' = negative ∧
        cs = written whole ++ (partChars part ++ (exponentChars exponent ++ rest)) := by
      cases negative with
      | true =>
        cases hsign
        exact ⟨rfl, by simp⟩
      | false =>
        split at hsign
        · next heq =>
          simp only [List.append_assoc] at heq
          exact absurd heq (written_ne_cons h.whole_lt h.whole_ne_nil (by decide) _)
        · cases hsign
          exact ⟨rfl, by simp⟩
    obtain ⟨rfl, rfl⟩ := hcs
    simp only [hwhole, hpart, Option.bind_eq_bind, Option.bind_some]
    cases exponent with
    -- Without an exponent it is what follows that must not look like one.
    | none =>
      cases rest with
      | nil => rfl
      | cons c rest =>
        have hc := (hrest.2 c rfl).2
        simp [exponentChars, hc.1, hc.2]
    | some e => simp [exponentChars, exponent?_append e hrest.1]

/-! ## Documents -/

mutual

/-- All numbers of the document are proper. -/
def Proper : Document → Prop
  | .number l => l.Proper
  | .array ds => ItemsProper ds
  | .object ms => MembersProper ms
  | .null | .bool _ | .string _ => True

/-- All numbers of the documents are proper. -/
def ItemsProper : List Document → Prop
  | [] => True
  | d :: ds => d.Proper ∧ ItemsProper ds

/-- All numbers of the members are proper. -/
def MembersProper : List (Option String × Document) → Prop
  | [] => True
  | (_, d) :: ms => d.Proper ∧ MembersProper ms

end

/-- What follows a document in a text: nothing that a number could go on with. -/
theorem numberEnds_itemsChars (ds : List Document) : NumberEnds (itemsChars ds ++ rest) := by
  cases ds <;> exact ⟨noDigit_cons (by decide), fun c hc => by cases hc; decide⟩

theorem numberEnds_membersChars (ms : List (Option String × Document)) :
    NumberEnds (membersChars ms ++ rest) := by
  rcases ms with _ | ⟨⟨name, d⟩, ms⟩ <;>
    exact ⟨noDigit_cons (by decide), fun c hc => by cases hc; decide⟩

/-- What a number begins with. -/
def numberStarts : List Char := ['-', '0', '1', '2', '3', '4', '5', '6', '7', '8', '9']

theorem digitChar_mem_numberStarts : ∀ d < 10, digitChar d ∈ numberStarts := by decide

theorem exists_literal_eq_cons (h : l.Proper) :
    ∃ c cs, l.chars = c :: cs ∧ c ∈ numberStarts := by
  rw [Literal.chars_eq]
  cases l.negative with
  | true => exact ⟨_, _, rfl, by decide⟩
  | false =>
    cases hwhole : l.whole with
    | nil => exact absurd hwhole h.whole_ne_nil
    | cons d ds =>
      exact ⟨_, _, rfl, digitChar_mem_numberStarts d (h.whole_lt d (by simp [hwhole]))⟩

/-- What a number begins with is nothing else. -/
theorem value?_of_mem {c : Char} (h : c ∈ numberStarts) (fuel : Nat) (cs : List Char) :
    value? (fuel + 1) (c :: cs) =
      (literal? (c :: cs)).map fun (l, rest) => (.number l, rest) := by
  simp only [numberStarts, List.mem_cons, List.not_mem_nil, or_false] at h
  rcases h with rfl | rfl | rfl | rfl | rfl | rfl | rfl | rfl | rfl | rfl | rfl <;> rfl

/-- A document does not begin with a blank, and not with what ends an array. -/
theorem exists_chars_eq_cons {d : Document} (h : d.Proper) :
    ∃ c cs, d.chars = c :: cs ∧ isSpace c = false ∧ c ≠ ']' := by
  cases d with
  | null => exact ⟨_, _, rfl, by decide, by decide⟩
  | bool b => cases b <;> exact ⟨_, _, rfl, by decide, by decide⟩
  | number l =>
    obtain ⟨c, cs, hchars, hc⟩ := exists_literal_eq_cons h
    have hstarts : ∀ c ∈ numberStarts, isSpace c = false ∧ c ≠ ']' := by
      simp [numberStarts, isSpace]
    exact ⟨c, cs, hchars, hstarts c hc⟩
  | string s => cases s <;> exact ⟨_, _, rfl, by decide, by decide⟩
  | array ds => cases ds <;> exact ⟨_, _, rfl, by decide, by decide⟩
  | object ms => rcases ms with _ | ⟨⟨name, d⟩, ms⟩ <;> exact ⟨_, _, rfl, by decide, by decide⟩

/-- A string or a name is read back, be it a text or not. -/
theorem exists_units (name : Option String) :
    ∃ body, textChars name = '"' :: body ∧
      ∀ rest, ∃ units, unquote? (body ++ rest) = some (units, rest) ∧ textOf? units = name := by
  cases name with
  | none => exact ⟨_, rfl, fun rest => ⟨[0xD800], rfl, rfl⟩⟩
  | some s =>
    refine ⟨s.toList.flatMap escape ++ ['"'], rfl, fun rest => ?_⟩
    refine ⟨s.toList.map Char.toNat, ?_, textOf?_map_toNat s⟩
    rw [List.append_assoc]
    exact unquote?_quoted s.toList rest

theorem skipSpace_cons {c : Char} (h : isSpace c = false) (cs : List Char) :
    skipSpace (c :: cs) = c :: cs := by
  simp [skipSpace, h]

/-- What follows the bracket of an array that is not empty are its items. -/
theorem value?_bracket {c : Char} (hspace : isSpace c = false) (hc : c ≠ ']') (fuel : Nat)
    (cs : List Char) :
    value? (fuel + 1) ('[' :: c :: cs) =
      (items? fuel (c :: cs)).map fun (ds, rest) => (.array ds, rest) := by
  have hopened : isSpace '[' = false := by decide
  simp only [value?, skipSpace_cons hopened, skipSpace_cons hspace]
  split
  · next heq => exact absurd (List.cons.inj heq).1 hc
  · rfl

section Step

variable {fuel : Nat} {body cs more : List Char} {units : List Nat} {d : Document}
  {ds : List Document} {name : Option String} {ms : List (Option String × Document)}

/-- The closing bracket ends the items. -/
theorem items?_last (h : value? fuel cs = some (d, ']' :: rest)) :
    items? (fuel + 1) cs = some ([d], rest) := by
  have hclosed : isSpace ']' = false := by decide
  simp only [items?, h, skipSpace_cons hclosed]

/-- Behind a comma there are more items. -/
theorem items?_more (h : value? fuel cs = some (d, ',' :: more))
    (hmore : items? fuel more = some (ds, rest)) :
    items? (fuel + 1) cs = some (d :: ds, rest) := by
  have hcomma : isSpace ',' = false := by decide
  simp only [items?, h, skipSpace_cons hcomma, hmore, Option.map_some]

/-- The closing brace ends the members. -/
theorem members?_last (hname : unquote? body = some (units, ':' :: cs))
    (h : value? fuel cs = some (d, '}' :: rest)) :
    members? (fuel + 1) ('"' :: body) = some ([(textOf? units, d)], rest) := by
  have hquote : isSpace '"' = false := by decide
  have hcolon : isSpace ':' = false := by decide
  have hclosed : isSpace '}' = false := by decide
  simp only [members?, skipSpace_cons hquote, hname, skipSpace_cons hcolon, h,
    skipSpace_cons hclosed]

/-- Behind a comma there are more members. -/
theorem members?_more (hname : unquote? body = some (units, ':' :: cs))
    (h : value? fuel cs = some (d, ',' :: more)) (hmore : members? fuel more = some (ms, rest)) :
    members? (fuel + 1) ('"' :: body) = some ((textOf? units, d) :: ms, rest) := by
  have hquote : isSpace '"' = false := by decide
  have hcolon : isSpace ':' = false := by decide
  have hcomma : isSpace ',' = false := by decide
  simp only [members?, skipSpace_cons hquote, hname, skipSpace_cons hcolon, h,
    skipSpace_cons hcomma, hmore, Option.map_some]

end Step

mutual

/-- A document is read from its compact text, whatever follows it. -/
theorem value?_append (d : Document) (fuel : Nat) (rest : List Char) (h : d.Proper)
    (hrest : NumberEnds rest) (hfuel : d.chars.length ≤ fuel) :
    value? fuel (d.chars ++ rest) = some (d, rest) := by
  cases fuel with
  | zero =>
    obtain ⟨c, cs, hchars, -⟩ := exists_chars_eq_cons h
    rw [hchars] at hfuel
    simp at hfuel
  | succ fuel =>
    match d with
    | .null => rfl
    | .bool true => rfl
    | .bool false => rfl
    -- The first character decides what is read, so each text is taken apart at its front.
    | .number l =>
      obtain ⟨c, cs, hchars, hc⟩ := exists_literal_eq_cons h
      have hliteral := literal?_append h hrest
      rw [hchars] at hliteral
      rw [chars, hchars, List.cons_append, value?_of_mem hc, ← List.cons_append, hliteral]
      rfl
    | .string s =>
      obtain ⟨body, hbody, hunits⟩ := exists_units s
      obtain ⟨units, hread, htext⟩ := hunits rest
      rw [chars, hbody]
      show (unquote? (body ++ rest)).map _ = _
      rw [hread, ← htext]
      rfl
    | .array [] => rfl
    | .array (d :: ds) =>
      obtain ⟨c, cs, hchars, hspace, hc⟩ := exists_chars_eq_cons h.1
      have hitems := items?_append d ds fuel rest h (by simpa [chars] using hfuel)
      simp only [chars, hchars, List.cons_append] at hitems ⊢
      rw [value?_bracket hspace hc, hitems]
      rfl
    | .object [] => rfl
    | .object ((name, d) :: ms) =>
      obtain ⟨body, hbody, -⟩ := exists_units name
      have hmembers := members?_append name d ms fuel rest h (by simpa [chars] using hfuel)
      simp only [chars, hbody, List.cons_append] at hmembers ⊢
      show (members? fuel _).map _ = _
      rw [hmembers]
      rfl
termination_by fuel

/-- Items are read up to the closing bracket. -/
theorem items?_append (d : Document) (ds : List Document) (fuel : Nat) (rest : List Char)
    (h : ItemsProper (d :: ds)) (hfuel : (d.chars ++ itemsChars ds).length ≤ fuel) :
    items? fuel (d.chars ++ itemsChars ds ++ rest) = some (d :: ds, rest) := by
  rw [List.length_append] at hfuel
  cases fuel with
  | zero =>
    obtain ⟨c, cs, hchars, -⟩ := exists_chars_eq_cons h.1
    rw [hchars] at hfuel
    simp at hfuel
  | succ fuel =>
    match ds with
    | [] =>
      simp only [itemsChars, List.length_singleton] at hfuel
      have hvalue := value?_append d fuel (itemsChars [] ++ rest) h.1 (numberEnds_itemsChars [])
        (by omega)
      rw [List.append_assoc]
      exact items?_last hvalue
    | d' :: ds =>
      simp only [itemsChars, List.length_append, List.length_cons] at hfuel
      have hvalue := value?_append d fuel (itemsChars (d' :: ds) ++ rest) h.1
        (numberEnds_itemsChars _) (by omega)
      have hitems := items?_append d' ds fuel rest h.2 (by rw [List.length_append]; omega)
      rw [List.append_assoc]
      exact items?_more hvalue hitems
termination_by fuel

/-- Members are read up to the closing brace. -/
theorem members?_append (name : Option String) (d : Document)
    (ms : List (Option String × Document)) (fuel : Nat) (rest : List Char)
    (h : MembersProper ((name, d) :: ms))
    (hfuel : (textChars name ++ ':' :: d.chars ++ membersChars ms).length ≤ fuel) :
    members? fuel (textChars name ++ ':' :: d.chars ++ membersChars ms ++ rest) =
      some ((name, d) :: ms, rest) := by
  obtain ⟨body, hbody, hunits⟩ := exists_units name
  simp only [hbody, List.length_append, List.length_cons] at hfuel
  cases fuel with
  | zero => simp at hfuel
  | succ fuel =>
    obtain ⟨units, hname, rfl⟩ := hunits (':' :: (d.chars ++ (membersChars ms ++ rest)))
    have hvalue := value?_append d fuel (membersChars ms ++ rest) h.1 (numberEnds_membersChars ms)
      (by omega)
    have hsplit : textChars (textOf? units) ++ ':' :: d.chars ++ membersChars ms ++ rest =
        '"' :: (body ++ ':' :: (d.chars ++ (membersChars ms ++ rest))) := by
      simp [hbody]
    rw [hsplit]
    match ms with
    | [] => exact members?_last hname hvalue
    | (name', d') :: ms =>
      simp only [membersChars, List.length_append, List.length_cons] at hfuel
      have hmembers := members?_append name' d' ms fuel rest h.2
        (by simp only [List.length_append, List.length_cons]; omega)
      exact members?_more hname hvalue hmembers
termination_by fuel

end

/-- **A document is read back from its text.** -/
theorem read?_text {d : Document} (h : d.Proper) : read? d.text = some d := by
  have hvalue := value?_append d (2 * d.chars.length + 2) [] h ⟨noDigit_nil, fun _ hc => nomatch hc⟩
    (by omega)
  rw [List.append_nil] at hvalue
  rw [read?, text, String.toList_ofList, ofChars?, hvalue]
  rfl

end Document

end TickChart.Json
