import TickChart.Text.Blank
import TickChart.Text.Upper

/-!
# Symbols

A symbol names what is traded and what it is quoted in, as in `BTC-USD`.

* `Symbol.ofText`: the symbol that a text asks for. Upper case, with `-` for every `/`; a bare asset
  is quoted in US dollars.
* `Symbol.product`: the name of the symbol's book on the live feed, which lists dollar books only.
-/

namespace TickChart

/-- The name of a traded pair. -/
structure Symbol where
  text : String
deriving DecidableEq, Inhabited

namespace Symbol

/-- The quote that a bare asset gets. -/
def dollarQuote : List Char := "-USD".toList

/-- A text in upper case, without the blanks around it and with `-` for every `/`. -/
def canonicalChars (raw : List Char) : List Char :=
  (Text.upper (Text.trim raw)).map fun c => if c = '/' then '-' else c

/-- The symbol that a text asks for (`Symbol.new`). -/
def ofText (raw : String) : Symbol :=
  let cs := canonicalChars raw.toList
  ⟨String.ofList (if '-' ∈ cs then cs else cs ++ dollarQuote)⟩

/-- The ending of a symbol that is quoted in tether, for which the feed has the dollar book. -/
def tetherQuote : List Char := "-USDT".toList

/-- `feed_product_id`: the name of the symbol's book on the live feed. -/
def product (s : Symbol) : String :=
  let cs := s.text.toList
  if tetherQuote.isSuffixOf cs then
    String.ofList (cs.take (cs.length - tetherQuote.length) ++ dollarQuote)
  else s.text

end Symbol

end TickChart
