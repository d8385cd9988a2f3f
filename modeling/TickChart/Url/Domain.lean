import TickChart.Text.Composition
import TickChart.Text.Mark
import TickChart.Url.Address
import TickChart.Url.Direction
import TickChart.Url.DomainMapping
import TickChart.Url.Joining
import TickChart.Url.Punycode

/-!
# Domains

The name of a domain as a text, which may have characters beyond ASCII, and in ASCII.

* `Label`: a label as it is meant and as it is written in ASCII.
* `readLabel?`: the label of a text between points, which may be in the ASCII form already.
* `domain?`: the name of a domain in ASCII and in lower case.
* `deniedInDomain`: the characters of ASCII that no domain has.
-/

namespace TickChart.Url

open TickChart.Text

/-- A character of ASCII that no domain has. -/
def deniedInDomain (c : Char) : Bool :=
  c.toNat ≤ 0x20 || c.toNat = 0x7F ||
    c ∈ ['%', '#', '/', ':', '<', '>', '?', '@', '[', '\\', ']', '^', '|']

/-- The character is beyond ASCII. -/
def isForeign (c : Char) : Bool := 0x80 ≤ c.toNat

/-! ## Labels -/

/-- A label. -/
structure Label where
  /-- The label as it is meant. -/
  meant : List Char
  /-- The label in ASCII. -/
  written : List Char
deriving DecidableEq

/-- The mark of a label in its ASCII form. -/
def asciiFormMark : List Char := "xn--".toList

/-- The greatest number of characters of a label that is put into its ASCII form. -/
def longestLabel : Nat := 1000

/-- The greatest length of an ASCII form that is read, apart from its mark. -/
def longestForm : Nat := 2000

/-- The label begins with no mark, and its joiners fit. -/
def isSound (label : List Char) : Bool := !label.head?.any isMark && joinersFit label

/-- The label could have been mapped and composed, and is not itself in an ASCII form. -/
def isFinished (label : List Char) : Bool :=
  label.all staysInDomain && composed label = label && !asciiFormMark.isPrefixOf label

/-- The label of an ASCII form, apart from its mark. It has characters beyond ASCII, and the form is
the one that it has. -/
def readForm? (form : List Char) : Option Label := do
  if form.any isForeign || longestForm < form.length then none
  let meant ← unpunycode? form
  if meant.any isForeign && isSound meant && isFinished meant && punycode meant = form then
    some ⟨meant, asciiFormMark ++ form⟩
  else none

/-- The label of a text that was mapped and composed. -/
def readLabel? (text : List Char) : Option Label :=
  if asciiFormMark.isPrefixOf text then readForm? (text.drop asciiFormMark.length)
  else if !text.any isForeign then some ⟨text, text⟩
  else if isSound text && text.length ≤ longestLabel then
    some ⟨text, asciiFormMark ++ punycode text⟩
  else none

/-! ## The domain -/

/-- The labels keep the rule on directions, if it applies. -/
def keepDirections (labels : List Label) : Bool :=
  !labels.any (·.meant.any isRightToLeft) || labels.all (keepsDirection ·.meant)

/-- A domain in ASCII. -/
def domain? (cs : List Char) : Option (List Char) := do
  let text := composed (← mapDomain? cs)
  if text.any deniedInDomain then none
  let labels ← (dotted text).mapM readLabel?
  if keepDirections labels then some (['.'].intercalate (labels.map (·.written))) else none

end TickChart.Url
