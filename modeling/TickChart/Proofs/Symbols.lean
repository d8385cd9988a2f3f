import TickChart.Command
import TickChart.Proofs.Words

/-!
# Symbols and the commands that name them

The symbol of a text is in one form: asking for it by its own text gives it back, and its book on
the live feed is such a symbol too. So a user reaches every selection whose symbol is one word by
two commands, in either order and whatever is selected before.

* `Symbol.Canonical`: the form of a symbol. `canonical_ofText`, `Canonical.product`: which symbols
  have it. `canonical_iff`: the texts of such symbols.
* `Symbol.product_product`, `Symbol.not_tether_product`: the name of a book is that of its own.
* `Command.Gives`: the lines that give a command. `selected?_symbol`, `selected?_timeframe`: what
  they select.
* `canonical_symbols_reached`: the symbol of a text, and the selections that have it.
-/

namespace TickChart

/-! ## Symbols -/

namespace Symbol

open Text

variable {s : Symbol} {raw : String} {cs base : List Char} {c : Char}

/-- The one form of a symbol: its own text asks for it, it has a dash and no slash, and no blanks
at its ends. -/
structure Canonical (s : Symbol) : Prop where
  fixed : ofText s.text = s
  dash_mem : '-' ∈ s.text.toList
  slash_notMem : '/' ∉ s.text.toList
  bare : Bare s.text.toList

/-- A dash in the place of a slash. -/
theorem mem_canonicalChars (h : c ∈ canonicalChars cs) : upperChar c = [c] ∧ c ≠ '/' := by
  obtain ⟨d, hd, rfl⟩ := List.mem_map.mp h
  split
  · exact ⟨by decide, by decide⟩
  · next hslash =>
    exact ⟨upperChar_of_mem_upper hd, hslash⟩

theorem isBlank_dash (c : Char) : isBlank (if c = '/' then '-' else c) = isBlank c := by
  split
  · next heq =>
    rw [heq]
    rfl
  · rfl

theorem bare_canonicalChars (cs : List Char) : Bare (canonicalChars cs) := by
  have hupper := (bare_trim cs).upper
  constructor
  · intro c hc
    rw [canonicalChars, List.head?_map] at hc
    obtain ⟨d, hd, rfl⟩ := Option.map_eq_some_iff.mp hc
    rw [isBlank_dash, hupper.1 d hd]
  · intro c hc
    rw [canonicalChars, List.getLast?_map] at hc
    obtain ⟨d, hd, rfl⟩ := Option.map_eq_some_iff.mp hc
    rw [isBlank_dash, hupper.2 d hd]

theorem canonicalChars_eq_self (hbare : Bare cs) (hupper : ∀ c ∈ cs, upperChar c = [c])
    (hslash : '/' ∉ cs) : canonicalChars cs = cs := by
  rw [canonicalChars, trim_of_bare hbare, upper_eq_self_iff.mpr hupper]
  calc cs.map (fun c => if c = '/' then '-' else c)
      = cs.map id := List.map_congr_left fun c hc => if_neg (ne_of_mem_of_not_mem hc hslash)
    _ = cs := List.map_id cs

theorem toList_ofText (raw : String) : (ofText raw).text.toList =
    if '-' ∈ canonicalChars raw.toList then canonicalChars raw.toList
    else canonicalChars raw.toList ++ dollarQuote := by
  rw [ofText, String.toList_ofList]

/-- A text in the form of a symbol is the text of its symbol. -/
theorem canonical_of_chars (hbare : Bare cs) (hupper : ∀ c ∈ cs, upperChar c = [c])
    (hdash : '-' ∈ cs) (hslash : '/' ∉ cs) : Canonical ⟨String.ofList cs⟩ where
  fixed := by
    rw [ofText, String.toList_ofList, canonicalChars_eq_self hbare hupper hslash, if_pos hdash]
  dash_mem := by rwa [String.toList_ofList]
  slash_notMem := by rwa [String.toList_ofList]
  bare := by rwa [String.toList_ofList]

theorem upperChar_of_mem_quote (h : c ∈ dollarQuote) : upperChar c = [c] ∧ c ≠ '/' := by
  have hquote : dollarQuote.Forall fun c => upperChar c = [c] ∧ c ≠ '/' := by decide
  exact List.forall_iff_forall_mem.mp hquote c h

theorem upperChar_of_mem_ofText (h : c ∈ (ofText raw).text.toList) :
    upperChar c = [c] ∧ c ≠ '/' := by
  rw [toList_ofText] at h
  split at h
  · exact mem_canonicalChars h
  · rcases List.mem_append.mp h with h | h
    · exact mem_canonicalChars h
    · exact upperChar_of_mem_quote h

theorem not_isBlank_dollarQuote : ∀ c ∈ dollarQuote, isBlank c = false :=
  List.forall_iff_forall_mem.mp (by decide)

/-- The symbol of a word is a word. -/
theorem not_isBlank_ofText (h : ∀ c ∈ raw.toList, isBlank c = false) :
    ∀ c ∈ (ofText raw).text.toList, isBlank c = false := by
  have hchars : ∀ c ∈ canonicalChars raw.toList, isBlank c = false := by
    intro c hc
    rw [canonicalChars, trim_of_not_isBlank h] at hc
    obtain ⟨d, hd, rfl⟩ := List.mem_map.mp hc
    obtain ⟨e, he, hd⟩ := List.mem_flatMap.mp hd
    rw [isBlank_dash, isBlank_of_mem_upperChar hd, h e he]
  rw [toList_ofText]
  split
  · exact hchars
  · exact List.forall_mem_append.mpr ⟨hchars, not_isBlank_dollarQuote⟩

/-- A quote in dollars ends a text without a blank, and begins it so if nothing stands before. -/
theorem bare_append_quote (h : ∀ c ∈ base.head?, isBlank c = false) :
    Bare (base ++ dollarQuote) := by
  have hquote : Bare dollarQuote := bare_of_not_isBlank not_isBlank_dollarQuote
  constructor
  · cases base with
    | nil => exact hquote.1
    | cons c base => exact h
  · rw [List.getLast?_append_of_ne_nil _ (by decide)]
    exact hquote.2

/-- The symbol of every text is in its form. -/
theorem canonical_ofText (raw : String) : (ofText raw).Canonical := by
  have hchars : ∀ c ∈ (ofText raw).text.toList, upperChar c = [c] ∧ c ≠ '/' :=
    fun c hc => upperChar_of_mem_ofText hc
  have hbare : Bare (ofText raw).text.toList := by
    rw [toList_ofText]
    split
    · exact bare_canonicalChars _
    · exact bare_append_quote (bare_canonicalChars _).1
  have hdash : '-' ∈ (ofText raw).text.toList := by
    rw [toList_ofText]
    split
    · next h => exact h
    · exact List.mem_append_right _ (by decide)
  have hform := canonical_of_chars hbare (fun c hc => (hchars c hc).1) hdash
    fun hslash => (hchars _ hslash).2 rfl
  rwa [String.ofList_toList] at hform

/-- The symbols in their form are those whose texts are in upper case, with a dash, no slash and no
blanks at their ends. -/
theorem canonical_iff : s.Canonical ↔ Bare s.text.toList ∧
    upper s.text.toList = s.text.toList ∧ '-' ∈ s.text.toList ∧ '/' ∉ s.text.toList := by
  constructor
  · intro h
    have hupper : ∀ c ∈ s.text.toList, upperChar c = [c] := by
      intro c hc
      rw [← h.fixed] at hc
      exact (upperChar_of_mem_ofText hc).1
    exact ⟨h.bare, upper_eq_self_iff.mpr hupper, h.dash_mem, h.slash_notMem⟩
  · rintro ⟨hbare, hupper, hdash, hslash⟩
    have hform := canonical_of_chars hbare (upper_eq_self_iff.mp hupper) hdash hslash
    rwa [String.ofList_toList] at hform

/-! ## Books -/

theorem product_of_tether (h : s.text.toList = base ++ tetherQuote) :
    s.product = String.ofList (base ++ dollarQuote) := by
  have hsuffix : tetherQuote.isSuffixOf s.text.toList = true :=
    List.isSuffixOf_iff_suffix.mpr ⟨base, h.symm⟩
  have htake : s.text.toList.take (s.text.toList.length - tetherQuote.length) = base := by
    rw [h, List.length_append, Nat.add_sub_cancel, List.take_left]
  simp only [product, if_pos hsuffix, htake]

theorem product_of_not_tether (h : ¬ tetherQuote <:+ s.text.toList) : s.product = s.text := by
  have hsuffix : ¬ tetherQuote.isSuffixOf s.text.toList = true :=
    mt List.isSuffixOf_iff_suffix.mp h
  simp only [product, if_neg hsuffix]

/-- No book is quoted in tether. -/
theorem not_tether_product (s : Symbol) : ¬ tetherQuote <:+ s.product.toList := by
  by_cases h : tetherQuote <:+ s.text.toList
  · obtain ⟨base, hbase⟩ := h
    rw [product_of_tether hbase.symm, String.toList_ofList]
    rintro ⟨front, heq⟩
    have hlast := congrArg List.getLast? heq
    rw [List.getLast?_append_of_ne_nil _ (by decide),
      List.getLast?_append_of_ne_nil _ (by decide)] at hlast
    exact absurd hlast (by decide)
  · rwa [product_of_not_tether h]

theorem product_product (s : Symbol) : product ⟨s.product⟩ = s.product :=
  product_of_not_tether (not_tether_product s)

/-- The book of a symbol in its form has the text of one. -/
theorem Canonical.product (h : s.Canonical) : Canonical ⟨s.product⟩ := by
  by_cases htether : tetherQuote <:+ s.text.toList
  · obtain ⟨base, hbase⟩ := htether
    have hchars : ∀ c ∈ base ++ dollarQuote, upperChar c = [c] ∧ c ≠ '/' := by
      intro c hc
      rcases List.mem_append.mp hc with hc | hc
      · have hmem : c ∈ s.text.toList := hbase ▸ List.mem_append_left _ hc
        rw [← h.fixed] at hmem
        exact upperChar_of_mem_ofText hmem
      · exact upperChar_of_mem_quote hc
    have hhead : ∀ c ∈ base.head?, isBlank c = false := by
      intro c hc
      refine h.bare.1 c ?_
      rw [← hbase, List.head?_append, Option.mem_def.mp hc]
      rfl
    rw [product_of_tether hbase.symm]
    exact canonical_of_chars (bare_append_quote hhead) (fun c hc => (hchars c hc).1)
      (List.mem_append_right _ (by decide)) fun hslash => (hchars _ hslash).2 rfl
  · rwa [product_of_not_tether htether]

end Symbol

/-! ## Commands -/

open Text

variable {line word argument : String} {current : Selection} {s : Symbol} {f : Timeframe}
  {a b : List Char}

/-- Words that differ in the case of ASCII only ask for one symbol. -/
theorem Symbol.ofText_congr (h : lowerAscii a = lowerAscii b) (hb : ∀ c ∈ b, isBlank c = false) :
    ofText (String.ofList a) = ofText (String.ofList b) := by
  have hchars : canonicalChars a = canonicalChars b := by
    rw [canonicalChars, canonicalChars, trim_of_not_isBlank (not_isBlank_congr h hb),
      trim_of_not_isBlank hb, upper_congr h]
  simp only [ofText, String.toList_ofList, hchars]

theorem Timeframe.not_isBlank_label (f : Timeframe) : ∀ c ∈ f.label.toList, isBlank c = false := by
  cases f <;> exact List.forall_iff_forall_mem.mp (by decide)

/-- A label in any case names its timeframe. -/
theorem Timeframe.ofText?_of_label (h : lowerAscii a = lowerAscii f.label.toList) :
    ofText? (String.ofList a) = .ok f := by
  have hfind : (all.find? fun g => eqIgnoringCase g.label.toList a) = some f := by
    simp only [eqIgnoringCase, h]
    cases f <;> decide
  have hblank := not_isBlank_congr h f.not_isBlank_label
  rw [ofText?, String.toList_ofList, trim_of_not_isBlank hblank, hfind]

namespace Command

/-- The line gives a word and an argument, in any case of their ASCII letters, with blanks between
them and maybe around them. -/
def Gives (line word argument : String) : Prop :=
  ∃ before w between a after, line.toList = before ++ (w ++ (between ++ (a ++ after))) ∧
    lowerAscii w = lowerAscii word.toList ∧ lowerAscii a = lowerAscii argument.toList ∧
    between ≠ [] ∧ ∀ c ∈ before ++ between ++ after, isBlank c = true

/-- The selection that a line makes. -/
def selected? (current : Selection) (line : String) : Option Selection :=
  match ofLine? line current with
  | some (select s) => some s
  | _ => none

theorem ne_nil_congr (h : lowerAscii a = lowerAscii b) (hb : b ≠ []) : a ≠ [] := by
  rintro rfl
  exact hb (List.map_eq_nil_iff.mp h.symm)

/-- Both words of a line are found, if there are no blanks in them. -/
theorem ofLine?_of_gives (current : Selection) (h : Gives line word argument)
    (hword : word.toList ≠ []) (hwords : ∀ c ∈ word.toList, isBlank c = false)
    (hargument : argument.toList ≠ []) (harguments : ∀ c ∈ argument.toList, isBlank c = false) :
    ∃ a, lowerAscii a = lowerAscii argument.toList ∧ ofLine? line current =
      ofWord? (String.ofList (lowerAscii word.toList)) (some (String.ofList a)) current := by
  obtain ⟨before, w, between, a, after, hline, hw, ha, hbetween, hblank⟩ := h
  simp only [List.mem_append, or_imp, forall_and] at hblank
  obtain ⟨⟨hbefore, hmiddle⟩, hafter⟩ := hblank
  have hsplit : words line.toList = [w, a] := by
    have hgap : ∀ c ∈ (between ++ (a ++ after)).head?, isBlank c = true := by
      rw [List.head?_append_of_ne_nil _ hbetween]
      exact fun c hc => hmiddle c (List.mem_of_mem_head? hc)
    rw [hline, words_blank_append hbefore,
      words_append (ne_nil_congr hw hword) (not_isBlank_congr hw hwords) hgap,
      words_blank_append hmiddle,
      words_append (ne_nil_congr ha hargument) (not_isBlank_congr ha harguments)
        fun c hc => hafter c (List.mem_of_mem_head? hc),
      words_of_blank hafter]
  refine ⟨a, ha, ?_⟩
  simp only [ofLine?, hsplit, hw]

/-- A line that names a symbol selects it and keeps the timeframe. -/
theorem selected?_symbol (h : Gives line "symbol" s.text) (hs : s.Canonical)
    (hblank : ∀ c ∈ s.text.toList, isBlank c = false) :
    selected? current line = some { current with symbol := s } := by
  have hword : ∀ c ∈ "symbol".toList, isBlank c = false :=
    List.forall_iff_forall_mem.mp (by decide)
  obtain ⟨a, ha, hline⟩ := ofLine?_of_gives current h (by decide) hword
    (List.ne_nil_of_mem hs.dash_mem) hblank
  have hsymbol : Symbol.ofText (String.ofList a) = s := by
    rw [Symbol.ofText_congr ha hblank, String.ofList_toList, hs.fixed]
  have hselect :
      ofWord? (String.ofList (lowerAscii "symbol".toList)) (some (String.ofList a)) current =
        some (select { current with symbol := Symbol.ofText (String.ofList a) }) := rfl
  simp only [selected?, hline, hselect, hsymbol]

/-- A line that names a timeframe selects it and keeps the symbol. -/
theorem selected?_timeframe (h : Gives line "tf" f.label) :
    selected? current line = some { current with timeframe := f } := by
  have hword : ∀ c ∈ "tf".toList, isBlank c = false := List.forall_iff_forall_mem.mp (by decide)
  have hlabel : f.label.toList ≠ [] := by cases f <;> decide
  obtain ⟨a, ha, hline⟩ :=
    ofLine?_of_gives current h (by decide) hword hlabel f.not_isBlank_label
  have hselect : ofWord? (String.ofList (lowerAscii "tf".toList)) (some (String.ofList a)) current =
      (Timeframe.ofText? (String.ofList a)).toOption.map fun timeframe =>
        select { current with timeframe } := rfl
  simp only [selected?, hline, hselect, Timeframe.ofText?_of_label ha]
  rfl

end Command

/-- **Symbols are in one form, and commands reach them.** The symbol of a text is the symbol of its
own text, with a dash, no slash and no blanks at its ends. Every text in upper case that is so is
the text of its symbol. The name of a book is a symbol in the same form, and the book of any symbol
has the name of its own book, which is not quoted in tether. So if there are no blanks in the text,
a line that names its symbol and one that names a timeframe lead to the two of them in either order,
from every selection. -/
theorem canonical_symbols_reached (raw : String) :
    (Symbol.ofText raw).Canonical ∧
      (∀ s : Symbol, s.Canonical ↔ Bare s.text.toList ∧ upper s.text.toList = s.text.toList ∧
        '-' ∈ s.text.toList ∧ '/' ∉ s.text.toList) ∧
      Symbol.Canonical ⟨(Symbol.ofText raw).product⟩ ∧
      (∀ s : Symbol, Symbol.product ⟨s.product⟩ = s.product ∧
        ¬ Symbol.tetherQuote <:+ s.product.toList) ∧
      ∀ target current symbolLine frameLine, target.symbol = Symbol.ofText raw →
        (∀ c ∈ raw.toList, isBlank c = false) →
        Command.Gives symbolLine "symbol" target.symbol.text →
        Command.Gives frameLine "tf" target.timeframe.label →
          [symbolLine, frameLine].foldlM Command.selected? current = some target ∧
            [frameLine, symbolLine].foldlM Command.selected? current = some target := by
  have hcanonical := Symbol.canonical_ofText raw
  refine ⟨hcanonical, fun _ => Symbol.canonical_iff, hcanonical.product,
    fun s => ⟨s.product_product, s.not_tether_product⟩, ?_⟩
  intro target current symbolLine frameLine htarget hraw hsymbol hframe
  have hblank : ∀ c ∈ target.symbol.text.toList, isBlank c = false :=
    htarget ▸ Symbol.not_isBlank_ofText hraw
  rw [← htarget] at hcanonical
  have hselect (current : Selection) :
      Command.selected? current symbolLine = some { current with symbol := target.symbol } :=
    Command.selected?_symbol hsymbol hcanonical hblank
  have hframes (current : Selection) :
      Command.selected? current frameLine = some { current with timeframe := target.timeframe } :=
    Command.selected?_timeframe hframe
  simp only [List.foldlM_cons, List.foldlM_nil, hselect, hframes, Option.bind_eq_bind,
    Option.bind_some, Option.pure_def, and_self]

/-- A pair in tether, whose letters, words and blanks are mixed. -/
theorem canonical_symbols_reached_mixed :
    let target : Selection := ⟨.ofText "eth/usdt", .h1⟩
    let current : Selection := ⟨.ofText "btc", .m5⟩
    target.symbol.text = "ETH-USDT" ∧ target.symbol.product = "ETH-USD" ∧
      (∀ c ∈ "eth/usdt".toList, isBlank c = false) ∧
      Command.Gives " SYMbol\tEth-Usdt" "symbol" target.symbol.text ∧
      Command.Gives "tF  1H " "tf" target.timeframe.label ∧
      [" SYMbol\tEth-Usdt", "tF  1H "].foldlM Command.selected? current = some target ∧
      ["tF  1H ", " SYMbol\tEth-Usdt"].foldlM Command.selected? current = some target := by
  intro target current
  have hblank : ∀ c ∈ "eth/usdt".toList, isBlank c = false :=
    List.forall_iff_forall_mem.mp (by decide)
  have htext : target.symbol.text = "ETH-USDT" := by decide +kernel
  have hbook : target.symbol.product = "ETH-USD" := by decide +kernel
  have hsymbol : Command.Gives " SYMbol\tEth-Usdt" "symbol" target.symbol.text := by
    rw [htext]
    exact ⟨[' '], "SYMbol".toList, ['\t'], "Eth-Usdt".toList, [], by decide, by decide, by decide,
      by decide, List.forall_iff_forall_mem.mp (by decide)⟩
  have hframe : Command.Gives "tF  1H " "tf" target.timeframe.label :=
    ⟨[], "tF".toList, [' ', ' '], "1H".toList, [' '], by decide, by decide, by decide, by decide,
      List.forall_iff_forall_mem.mp (by decide)⟩
  obtain ⟨-, -, -, -, hreached⟩ := canonical_symbols_reached "eth/usdt"
  exact ⟨htext, hbook, hblank, hsymbol, hframe,
    hreached target current _ _ rfl hblank hsymbol hframe⟩

end TickChart
