import TickChart.Feed.Message
import TickChart.Proofs.Documents

/-!
# Which frames are trades

A frame of the feed is a trade when its members are, each under its own condition. What cannot be
read of the time and of the statistics never stands in the way of the price, the size and the side.

* `Absent`, `Says`, `Lenient`: what a member of a message is.
* `Figure`: a decimal in plain or scientific notation, with blanks around it.
* `TickerFields.ofMembers`, `ofValue?_of_lenient`, `ofValue?_of_not`: when the fields of a message
  are read at all.
* `TickerFields.essentials`: price, size and side. `tick_eq`: the others are never refused.
* `Trades`, `Carries`: the conditions of a trade, and what its tick is.
* `FeedMessage.tick_iff_trades`: they are exactly these, and two frames that differ only in their
  times and statistics come to the same.
-/

namespace TickChart

open Json

/-! ## Members -/

/-- The members of a message. -/
abbrev Members := List (String × Value)

/-- The member is missing, or `null`. -/
def Absent (ms : Members) (name : String) : Prop :=
  ms.lookup name = none ∨ ms.lookup name = some .null

/-- The member is this text. -/
def Says (ms : Members) (name text : String) : Prop := ms.lookup name = some (.string text)

/-- The member is a text, if it is there. -/
def Lenient (ms : Members) (name : String) : Prop := Absent ms name ∨ ∃ text, Says ms name text

/-- The text of a member, if it is one. -/
def textAt? (ms : Members) (name : String) : Option String := (ms.lookup name).bind Value.text?

/-- The members that a trade is read from. -/
def readNames : List String :=
  ["product_id", "price", "last_size", "side", "time", "high_24h", "low_24h", "volume_24h"]

/-- Those among them that may be any text. -/
def looseNames : List String := ["time", "high_24h", "low_24h", "volume_24h"]

variable {ms others : Members} {name text : String} {product : String} {symbol : Symbol}
  {received : Instant} {t : Tick} {d : Decimal} {side : Side} {f : TickerFields}

theorem bind_eq_ok_iff {ε α β : Type} {x : Except ε α} {k : α → Except ε β} {b : β} :
    x >>= k = .ok b ↔ ∃ a, x = .ok a ∧ k a = .ok b := by
  cases x <;> simp [bind, Except.bind]

theorem textAt?_eq_some_iff : textAt? ms name = some text ↔ Says ms name text := by
  rw [textAt?, Option.bind_eq_some_iff, Says]
  constructor
  · rintro ⟨v, hv, htext⟩
    cases v <;> cases htext
    exact hv
  · intro h
    exact ⟨_, h, rfl⟩

theorem Absent.textAt?_eq_none (h : Absent ms name) : textAt? ms name = none := by
  rcases h with h | h <;> rw [textAt?, h] <;> rfl

theorem Lenient.absent_iff (h : Lenient ms name) : Absent ms name ↔ textAt? ms name = none := by
  refine ⟨Absent.textAt?_eq_none, fun hnone => h.resolve_right ?_⟩
  rintro ⟨text, htext⟩
  rw [textAt?_eq_some_iff.mpr htext] at hnone
  cases hnone

theorem optionalText?_of_lenient (h : Lenient ms name) :
    TickerFields.optionalText? (ms.lookup name) = some (textAt? ms name) := by
  rcases h with (h | h) | ⟨text, h⟩
  · rw [textAt?, h]; rfl
  · rw [textAt?, h]; rfl
  · rw [textAt?_eq_some_iff.mpr h, h]; rfl

theorem lenient_of_optionalText? {o : Option String}
    (h : TickerFields.optionalText? (ms.lookup name) = some o) : Lenient ms name := by
  unfold TickerFields.optionalText? at h
  split at h
  · next hv => exact .inl (.inl hv)
  · next hv => exact .inl (.inr hv)
  · next text hv => exact .inr ⟨text, hv⟩
  · cases h

/-! ## Texts -/

/-- The text is the decimal in plain notation, or, if it is none, in scientific notation, with
blanks around it or without. -/
def Figure (text : String) (d : Decimal) : Prop :=
  Decimal.readPlain? (Text.trim text.toList) = some d ∨
    Decimal.readPlain? (Text.trim text.toList) = none ∧
      Decimal.readScientific? (Text.trim text.toList) = some d

theorem figure_iff : Figure text d ↔ Decimal.readTrimmed? text = some d := by
  unfold Figure Decimal.readTrimmed? Decimal.read?
  cases Decimal.readPlain? (Text.trim text.toList) <;> simp

/-- The words that name a side. -/
def Side.spellings : Side → List String
  | buy => ["buy", "Buy", "BUY"]
  | sell => ["sell", "Sell", "SELL"]

theorem Side.ofText?_eq_ok_iff : Side.ofText? text = .ok side ↔ text ∈ side.spellings := by
  unfold Side.ofText?
  constructor
  · intro h
    split at h
    · next hbuy => cases h; exact hbuy
    · split at h
      · next hsell => cases h; exact hsell
      · cases h
  · intro h
    cases side with
    | buy => exact if_pos h
    | sell =>
      have hbuy : text ∉ ["buy", "Buy", "BUY"] := by
        simp only [Side.spellings, List.mem_cons, List.not_mem_nil, or_false] at h
        rcases h with rfl | rfl | rfl <;> decide
      rw [if_neg hbuy]
      exact if_pos h

namespace TickerFields

/-! ## Fields -/

/-- The fields of members that are texts, if they are there. -/
def ofMembers (ms : Members) : TickerFields where
  product := textAt? ms "product_id"
  price := textAt? ms "price"
  size := textAt? ms "last_size"
  side := textAt? ms "side"
  time := textAt? ms "time"
  high := textAt? ms "high_24h"
  low := textAt? ms "low_24h"
  volume := textAt? ms "volume_24h"

theorem ofValue?_of_lenient (h : ∀ name ∈ readNames, Lenient ms name) :
    ofValue? (.object ms) = some (ofMembers ms) := by
  have hread : ∀ name ∈ readNames, optionalText? (ms.lookup name) = some (textAt? ms name) :=
    fun name hname => optionalText?_of_lenient (h name hname)
  simp only [readNames, List.forall_mem_cons] at hread
  obtain ⟨hproduct, hprice, hsize, hside, htime, hhigh, hlow, hvolume, -⟩ := hread
  simp only [ofValue?, Value.get?, hproduct, hprice, hsize, hside, htime, hhigh, hlow, hvolume]
  rfl

theorem ofValue?_of_not (h : ¬ ∀ name ∈ readNames, Lenient ms name) :
    ofValue? (.object ms) = none := by
  rw [Option.eq_none_iff_forall_ne_some]
  intro f hf
  simp only [ofValue?, bind, Option.bind_eq_some_iff, Value.get?] at hf
  obtain ⟨_, hproduct, _, hprice, _, hsize, _, hside, _, htime, _, hhigh, _, hlow, _, hvolume, -⟩ :=
    hf
  refine h ?_
  simp only [readNames, List.forall_mem_cons, List.not_mem_nil, false_imp_iff, implies_true,
    and_true]
  exact ⟨lenient_of_optionalText? hproduct, lenient_of_optionalText? hprice,
    lenient_of_optionalText? hsize, lenient_of_optionalText? hside, lenient_of_optionalText? htime,
    lenient_of_optionalText? hhigh, lenient_of_optionalText? hlow, lenient_of_optionalText? hvolume⟩

/-- The size of a trade. Without one nothing was traded. -/
def size? (f : TickerFields) : Except ReadError Decimal :=
  match f.size with
  | some size => decimal "last_size" size
  | none => .ok Decimal.zero

/-- What of a trade can be refused: its product; and its price, size and side, which is what is left
of it. -/
def essentials (f : TickerFields) (product : String) :
    Except ReadError (Decimal × Decimal × Side) := do
  checkProduct product f.product
  let price ← checkPrice (← decimal "price" (← required "price" f.price))
  let size ← f.size?
  let side ← Side.ofText? (← required "side" f.side)
  .ok (price, size, side)

/-- The time of the trade, or else the moment at which it was received. -/
def timeOr (f : TickerFields) (received : Instant) : Instant :=
  (f.time.bind fun time => Time.readStrict? time.toList).getD received

/-- A tick is its essentials; whatever the time and the statistics are is never refused. -/
theorem tick_eq (f : TickerFields) (product : String) (symbol : Symbol) (received : Instant) :
    f.tick product symbol received = (f.essentials product).map fun (price, size, side) =>
      { symbol, price, size, side, time := f.timeOr received, stats := f.stats } := by
  have hmap : ∀ {α β γ : Type} (x : Except ReadError α) (k : α → Except ReadError β) (g : β → γ),
      (x >>= k).map g = x >>= fun a => (k a).map g := by
    intro α β γ x k g
    cases x <;> rfl
  unfold tick essentials size?
  cases f.size <;> simp only [hmap] <;> rfl

theorem checkProduct_eq_ok_iff {actual : Option String} {u : Unit} :
    checkProduct product actual = .ok u ↔ ∀ text, actual = some text → text = product := by
  cases actual with
  | none => simp [checkProduct]
  | some text => by_cases h : text = product <;> simp [checkProduct, h]

theorem decimal_eq_ok_iff {field : String} : decimal field text = .ok d ↔ Figure text d := by
  rw [figure_iff, decimal]
  cases Decimal.readTrimmed? text <;> simp

theorem required_eq_ok_iff {field : String} {o : Option String} :
    required field o = .ok text ↔ o = some text := by
  cases o <;> simp [required]

theorem checkPrice_eq_ok_iff {price : Decimal} :
    checkPrice price = .ok d ↔ price = d ∧ Decimal.zero < d := by
  unfold checkPrice
  split
  · next hle =>
    constructor
    · intro h
      cases h
    · rintro ⟨rfl, hlt⟩
      exact absurd hle (Int.not_le.mpr hlt)
  · next hlt =>
    constructor
    · intro h
      cases h
      exact ⟨rfl, Int.not_le.mp hlt⟩
    · rintro ⟨rfl, -⟩
      rfl

theorem size?_eq_ok_iff :
    f.size? = .ok d ↔ (f.size = none ∧ d = .zero) ∨ ∃ text, f.size = some text ∧ Figure text d := by
  unfold size?
  cases f.size with
  | none => simp [eq_comm]
  | some text => simp [decimal_eq_ok_iff]

/-- The conditions under which the essentials of a trade are these. -/
structure Essential (f : TickerFields) (product : String) (price size : Decimal) (side : Side) :
    Prop where
  product_eq : ∀ text, f.product = some text → text = product
  price_eq : ∃ text, f.price = some text ∧ Figure text price
  price_pos : Decimal.zero < price
  size_eq : (f.size = none ∧ size = .zero) ∨ ∃ text, f.size = some text ∧ Figure text size
  side_eq : ∃ text, f.side = some text ∧ text ∈ side.spellings

theorem essentials_eq_ok_iff {price size : Decimal} :
    f.essentials product = .ok (price, size, side) ↔ Essential f product price size side := by
  simp only [essentials, bind_eq_ok_iff, checkProduct_eq_ok_iff, required_eq_ok_iff,
    decimal_eq_ok_iff, checkPrice_eq_ok_iff, size?_eq_ok_iff, Side.ofText?_eq_ok_iff,
    Except.ok.injEq, Prod.mk.injEq]
  constructor
  · rintro ⟨-, hproduct, priceText, hpriceText, _, hprice, _, ⟨rfl, hpositive⟩, _, hsize, sideText,
      hsideText, _, hside, rfl, rfl, rfl⟩
    exact ⟨hproduct, ⟨priceText, hpriceText, hprice⟩, hpositive, hsize, sideText, hsideText, hside⟩
  · rintro ⟨hproduct, ⟨priceText, hpriceText, hprice⟩, hpositive, hsize, sideText, hsideText, hside⟩
    exact ⟨(), hproduct, priceText, hpriceText, price, hprice, price, ⟨rfl, hpositive⟩, size, hsize,
      sideText, hsideText, side, hside, rfl, rfl, rfl⟩

theorem tick_eq_ok_iff :
    f.tick product symbol received = .ok t ↔
      Essential f product t.price t.size t.side ∧ t.symbol = symbol ∧
        t.time = f.timeOr received ∧ t.stats = f.stats := by
  rw [tick_eq, ← essentials_eq_ok_iff]
  cases f.essentials product with
  | error e => simp [Except.map]
  | ok essentials =>
    obtain ⟨price, size, side⟩ := essentials
    cases t
    simp only [Except.map, Except.ok.injEq, Tick.mk.injEq, Prod.mk.injEq]
    constructor
    · rintro ⟨rfl, rfl, rfl, rfl, rfl, rfl⟩
      exact ⟨⟨rfl, rfl, rfl⟩, rfl, rfl, rfl⟩
    · rintro ⟨⟨rfl, rfl, rfl⟩, rfl, rfl, rfl⟩
      exact ⟨rfl, rfl, rfl, rfl, rfl, rfl⟩

end TickerFields

/-! ## Trades -/

/-- The conditions under which the members of a message are a trade of the product. -/
structure Trades (ms : Members) (product : String) : Prop where
  kind : Says ms "type" tickerChannel
  lenient : ∀ name ∈ readNames, Lenient ms name
  product_eq : ∀ text, Says ms "product_id" text → text = product
  price : ∃ text d, Says ms "price" text ∧ Figure text d ∧ Decimal.zero < d
  size : ∀ text, Says ms "last_size" text → ∃ d, Figure text d
  side : ∃ text side, Says ms "side" text ∧ text ∈ Side.spellings side

/-- The figure is known exactly if the member is one. -/
def Known (ms : Members) (name : String) (figure : Option Decimal) : Prop :=
  ∀ d, figure = some d ↔ ∃ text, Says ms name text ∧ Figure text d

/-- The tick is that of the members. -/
structure Carries (ms : Members) (symbol : Symbol) (received : Instant) (t : Tick) : Prop where
  symbol_eq : t.symbol = symbol
  price : ∃ text, Says ms "price" text ∧ Figure text t.price
  size : (Absent ms "last_size" ∧ t.size = .zero) ∨
    ∃ text, Says ms "last_size" text ∧ Figure text t.size
  side : ∃ text, Says ms "side" text ∧ text ∈ t.side.spellings
  /-- The time is that of the trade if it can be read, and else the one of the receipt. -/
  time : (∃ text, Says ms "time" text ∧ Time.readStrict? text.toList = some t.time) ∨
    (∀ text, Says ms "time" text → Time.readStrict? text.toList = none) ∧ t.time = received
  high : Known ms "high_24h" t.stats.high
  low : Known ms "low_24h" t.stats.low
  volume : Known ms "volume_24h" t.stats.volume

/-- The members are the same but for the texts of the time and of the statistics. -/
structure AlikeButLoose (ms others : Members) : Prop where
  same : ∀ name ∉ looseNames, others.lookup name = ms.lookup name
  loose : ∀ name ∈ looseNames, Lenient ms name ∧ Lenient others name

/-- The price of a trade is positive. -/
theorem Trades.zero_lt_price (h : Trades ms product) (hcarries : Carries ms symbol received t) :
    Decimal.zero < t.price := by
  obtain ⟨text, htext, hprice⟩ := hcarries.price
  obtain ⟨text', d, htext', hd, hpositive⟩ := h.price
  cases htext.symm.trans htext'
  rw [figure_iff] at hprice hd
  cases hd.symm.trans hprice
  exact hpositive

theorem known_textAt? : Known ms name ((textAt? ms name).bind Decimal.readTrimmed?) := by
  intro d
  simp only [Option.bind_eq_some_iff, textAt?_eq_some_iff, figure_iff]

theorem Known.unique {a b : Option Decimal} (ha : Known ms name a) (hb : Known ms name b) :
    a = b :=
  Option.ext fun d => (ha d).trans (hb d).symm

/-- What the time of a tick is, from the text of the member. -/
theorem eq_timeOr_iff {time : Instant} :
    time = (TickerFields.ofMembers ms).timeOr received ↔
      (∃ text, Says ms "time" text ∧ Time.readStrict? text.toList = some time) ∨
        (∀ text, Says ms "time" text → Time.readStrict? text.toList = none) ∧ time = received := by
  simp only [TickerFields.timeOr, TickerFields.ofMembers, ← textAt?_eq_some_iff]
  cases textAt? ms "time" with
  | none => simp
  | some text => cases hread : Time.readStrict? text.toList <;> simp [hread, eq_comm]

/-- The conditions of the essentials, in terms of the members. -/
theorem essential_ofMembers_iff {price size : Decimal} (hsize : Lenient ms "last_size") :
    (TickerFields.ofMembers ms).Essential product price size side ↔
      (∀ text, Says ms "product_id" text → text = product) ∧
        (∃ text, Says ms "price" text ∧ Figure text price) ∧ Decimal.zero < price ∧
        ((Absent ms "last_size" ∧ size = .zero) ∨
          ∃ text, Says ms "last_size" text ∧ Figure text size) ∧
        ∃ text, Says ms "side" text ∧ text ∈ side.spellings := by
  simp only [← textAt?_eq_some_iff, hsize.absent_iff]
  constructor
  · rintro ⟨hproduct, hprice, hpositive, hsize, hside⟩
    exact ⟨hproduct, hprice, hpositive, hsize, hside⟩
  · rintro ⟨hproduct, hprice, hpositive, hsize, hside⟩
    exact ⟨hproduct, hprice, hpositive, hsize, hside⟩

/-- The essentials of members that are a trade, and of no others. -/
theorem exists_essential_iff (hkind : Says ms "type" tickerChannel)
    (hlenient : ∀ name ∈ readNames, Lenient ms name) :
    (∃ price size side, (TickerFields.ofMembers ms).Essential product price size side) ↔
      Trades ms product := by
  have hlast := hlenient "last_size" (by decide)
  simp only [essential_ofMembers_iff hlast]
  constructor
  · rintro ⟨price, size, side, hproduct, ⟨priceText, hpriceText, hprice⟩, hpositive, hsizes,
      sideText, hsideText, hside⟩
    refine
      { kind := hkind
        lenient := hlenient
        product_eq := hproduct
        price := ⟨priceText, price, hpriceText, hprice, hpositive⟩
        size := fun text htext => ?_
        side := ⟨sideText, side, hsideText, hside⟩ }
    -- A size that is there is not absent, and its one text is the one that was read.
    rcases hsizes with ⟨habsent, -⟩ | ⟨text', htext', hfigure⟩
    · rcases habsent with hnone | hnull
      · cases htext.symm.trans hnone
      · cases htext.symm.trans hnull
    · cases htext.symm.trans htext'
      exact ⟨size, hfigure⟩
  · rintro ⟨-, -, hproduct, ⟨priceText, price, hpriceText, hprice, hpositive⟩, hsizes, sideText,
      side, hsideText, hside⟩
    -- The size is the one that its text writes, or zero without a text.
    obtain ⟨size, hsize⟩ : ∃ d, (Absent ms "last_size" ∧ d = .zero) ∨
        ∃ text, Says ms "last_size" text ∧ Figure text d := by
      rcases hlast with habsent | ⟨text, htext⟩
      · exact ⟨.zero, .inl ⟨habsent, rfl⟩⟩
      · obtain ⟨d, hd⟩ := hsizes text htext
        exact ⟨d, .inr ⟨text, htext, hd⟩⟩
    exact ⟨price, size, side, hproduct, ⟨priceText, hpriceText, hprice⟩, hpositive, hsize,
      sideText, hsideText, hside⟩

/-- The statistics of a tick are those of the members if each of its figures is. -/
theorem eq_stats_iff {stats : DailyStats} :
    stats = (TickerFields.ofMembers ms).stats ↔
      Known ms "high_24h" stats.high ∧ Known ms "low_24h" stats.low ∧
        Known ms "volume_24h" stats.volume := by
  constructor
  · rintro rfl
    exact ⟨known_textAt?, known_textAt?, known_textAt?⟩
  · rintro ⟨hhigh, hlow, hvolume⟩
    have hhigh' := hhigh.unique known_textAt?
    have hlow' := hlow.unique known_textAt?
    have hvolume' := hvolume.unique known_textAt?
    cases stats
    subst hhigh' hlow' hvolume'
    rfl

/-- A trade and its tick, in terms of the fields of the members. -/
theorem trades_and_carries_iff (hkind : Says ms "type" tickerChannel)
    (hlenient : ∀ name ∈ readNames, Lenient ms name) :
    Trades ms product ∧ Carries ms symbol received t ↔
      (TickerFields.ofMembers ms).tick product symbol received = .ok t := by
  have hlast := hlenient "last_size" (by decide)
  rw [TickerFields.tick_eq_ok_iff]
  constructor
  · rintro ⟨htrades, hcarries⟩
    refine ⟨(essential_ofMembers_iff hlast).mpr ?_, hcarries.symbol_eq,
      eq_timeOr_iff.mpr hcarries.time,
      eq_stats_iff.mpr ⟨hcarries.high, hcarries.low, hcarries.volume⟩⟩
    exact ⟨htrades.product_eq, hcarries.price, htrades.zero_lt_price hcarries, hcarries.size,
      hcarries.side⟩
  · rintro ⟨hessential, hsymbol, htime, hstats⟩
    have htrades : Trades ms product :=
      (exists_essential_iff hkind hlenient).mp ⟨_, _, _, hessential⟩
    obtain ⟨-, hprice, -, hsize, hside⟩ := (essential_ofMembers_iff hlast).mp hessential
    obtain ⟨hhigh, hlow, hvolume⟩ := eq_stats_iff.mp hstats
    exact ⟨htrades,
      { symbol_eq := hsymbol, price := hprice, size := hsize, side := hside
        time := eq_timeOr_iff.mp htime, high := hhigh, low := hlow, volume := hvolume }⟩

/-- Neither the time nor the statistics are among the essentials. -/
theorem AlikeButLoose.essentials_eq (h : AlikeButLoose ms others) :
    (TickerFields.ofMembers others).essentials product =
      (TickerFields.ofMembers ms).essentials product := by
  have hsame : ∀ name ∉ looseNames, textAt? others name = textAt? ms name := by
    intro name hname
    rw [textAt?, h.same name hname, textAt?]
  simp only [TickerFields.essentials, TickerFields.size?, TickerFields.ofMembers,
    hsame "product_id" (by decide), hsame "price" (by decide), hsame "last_size" (by decide),
    hsame "side" (by decide)]

theorem AlikeButLoose.lenient_iff (h : AlikeButLoose ms others) :
    (∀ name ∈ readNames, Lenient others name) ↔ ∀ name ∈ readNames, Lenient ms name := by
  refine forall₂_congr fun name _ => ?_
  by_cases hname : name ∈ looseNames
  · exact iff_of_true (h.loose name hname).2 (h.loose name hname).1
  · unfold Lenient Absent Says
    rw [h.same name hname]

namespace FeedMessage

/-- A message of that type comes to what its fields describe. -/
theorem ofValue?_of_lenient (hkind : Says ms "type" tickerChannel)
    (hlenient : ∀ name ∈ readNames, Lenient ms name) :
    ofValue? (.object ms) product symbol received =
      ((TickerFields.ofMembers ms).tick product symbol received).map .tick := by
  have htype : (Value.get? (.object ms) "type").bind Value.text? = some tickerChannel :=
    textAt?_eq_some_iff.mpr hkind
  simp only [ofValue?, htype, ↓reduceIte, TickerFields.ofValue?_of_lenient hlenient]

/-- One whose fields cannot be read is refused as a whole. -/
theorem ofValue?_of_not (hkind : Says ms "type" tickerChannel)
    (hlenient : ¬ ∀ name ∈ readNames, Lenient ms name) :
    ofValue? (.object ms) product symbol received = .error .notJson := by
  have htype : (Value.get? (.object ms) "type").bind Value.text? = some tickerChannel :=
    textAt?_eq_some_iff.mpr hkind
  simp only [ofValue?, htype, ↓reduceIte, TickerFields.ofValue?_of_not hlenient]

/-- A message is a trade only if it is an object of that type. -/
theorem says_of_ofValue?_tick {v : Value} (h : ofValue? v product symbol received = .ok (.tick t)) :
    ∃ ms, v = .object ms ∧ Says ms "type" tickerChannel := by
  cases v with
  | object ms =>
    refine ⟨ms, rfl, textAt?_eq_some_iff.mp ?_⟩
    simp only [ofValue?] at h
    split at h
    · cases h
    · next kind hkind =>
      split at h
      · next hticker => exact hkind.trans (congrArg some hticker)
      · split at h
        · cases h
        · split at h <;> cases h
  | _ => simp [ofValue?, Value.get?] at h

theorem ofValue?_eq_tick_iff {v : Value} :
    ofValue? v product symbol received = .ok (.tick t) ↔
      ∃ ms, v = .object ms ∧ Trades ms product ∧ Carries ms symbol received t := by
  constructor
  · intro h
    obtain ⟨ms, rfl, hkind⟩ := says_of_ofValue?_tick h
    by_cases hlenient : ∀ name ∈ readNames, Lenient ms name
    · rw [ofValue?_of_lenient hkind hlenient] at h
      refine ⟨ms, rfl, (trades_and_carries_iff hkind hlenient).mpr ?_⟩
      cases htick : (TickerFields.ofMembers ms).tick product symbol received with
      | error e => simp [htick, Except.map] at h
      | ok t' => simpa [htick, Except.map] using h
    · rw [ofValue?_of_not hkind hlenient] at h
      cases h
  · rintro ⟨ms, rfl, htrades, hcarries⟩
    have htick := (trades_and_carries_iff htrades.kind htrades.lenient).mp ⟨htrades, hcarries⟩
    rw [ofValue?_of_lenient htrades.kind htrades.lenient, htick]
    rfl

theorem ofText?_eq_tick_iff :
    ofText? text product symbol received = .ok (.tick t) ↔
      ∃ ms, Value.read? text = some (.object ms) ∧ Trades ms product ∧
        Carries ms symbol received t := by
  unfold ofText?
  cases Value.read? text with
  | none => simp
  | some v => simp [ofValue?_eq_tick_iff]

/-- Every trade has a tick. -/
theorem exists_carries (h : Trades ms product) : ∃ t, Carries ms symbol received t := by
  obtain ⟨price, size, side, hessential⟩ := (exists_essential_iff h.kind h.lenient).mpr h
  let t : Tick :=
    { symbol, price, size, side, time := (TickerFields.ofMembers ms).timeOr received
      stats := (TickerFields.ofMembers ms).stats }
  have htick : (TickerFields.ofMembers ms).tick product symbol received = .ok t :=
    TickerFields.tick_eq_ok_iff.mpr ⟨hessential, rfl, rfl, rfl⟩
  exact ⟨t, ((trades_and_carries_iff h.kind h.lenient).mpr htick).2⟩

/-- What two messages come to that are both refused for the same reason, or both trades of the same
price, size and side. -/
def SameEssentials (a b : Except ReadError FeedMessage) : Prop :=
  (∃ error, a = .error error ∧ b = .error error) ∨
    ∃ t u, a = .ok (.tick t) ∧ b = .ok (.tick u) ∧ t.price = u.price ∧ t.size = u.size ∧
      t.side = u.side

theorem sameEssentials_of_alike (hkind : Says ms "type" tickerChannel)
    (h : AlikeButLoose ms others) :
    SameEssentials (ofValue? (.object ms) product symbol received)
      (ofValue? (.object others) product symbol received) := by
  have hkind' : Says others "type" tickerChannel := (h.same "type" (by decide)).trans hkind
  by_cases hlenient : ∀ name ∈ readNames, Lenient ms name
  · rw [ofValue?_of_lenient hkind hlenient,
      ofValue?_of_lenient hkind' (h.lenient_iff.mpr hlenient)]
    simp only [TickerFields.tick_eq, h.essentials_eq]
    cases (TickerFields.ofMembers ms).essentials product with
    | error e => exact .inl ⟨e, rfl, rfl⟩
    | ok essentials => exact .inr ⟨_, _, rfl, rfl, rfl, rfl, rfl⟩
  · rw [ofValue?_of_not hkind hlenient, ofValue?_of_not hkind' (mt h.lenient_iff.mp hlenient)]
    exact .inl ⟨_, rfl, rfl⟩

/-- **Which frames are trades.** A frame comes to a tick exactly if it is an object whose members
are a trade of the product, and the tick is then the one that they carry; there is always one. Of
two frames of that type that differ only in the texts of their times and statistics, both are
refused for the same reason, or both are trades of the same price, size and side. -/
theorem tick_iff_trades (text product : String) (symbol : Symbol) (received : Instant) :
    (∀ t, ofText? text product symbol received = .ok (.tick t) ↔
        ∃ ms, Value.read? text = some (.object ms) ∧ Trades ms product ∧
          Carries ms symbol received t) ∧
      ((∃ t, ofText? text product symbol received = .ok (.tick t)) ↔
        ∃ ms, Value.read? text = some (.object ms) ∧ Trades ms product) ∧
      ∀ other ms others, Value.read? text = some (.object ms) →
        Value.read? other = some (.object others) → Says ms "type" tickerChannel →
        AlikeButLoose ms others →
        SameEssentials (ofText? text product symbol received)
          (ofText? other product symbol received) := by
  refine ⟨fun t => ofText?_eq_tick_iff, ?_, ?_⟩
  · constructor
    · rintro ⟨t, ht⟩
      obtain ⟨ms, hread, htrades, -⟩ := ofText?_eq_tick_iff.mp ht
      exact ⟨ms, hread, htrades⟩
    · rintro ⟨ms, hread, htrades⟩
      obtain ⟨t, ht⟩ := exists_carries htrades
      exact ⟨t, ofText?_eq_tick_iff.mpr ⟨ms, hread, htrades, ht⟩⟩
  · intro other ms others hread hother hkind halike
    simp only [ofText?, hread, hother]
    exact sameEssentials_of_alike hkind halike

/-- A trade at a time that nobody can read, and the same trade with such a low. -/
theorem tick_iff_trades_atNoon :
    let frame (field text : String) : Document :=
      .record [("type", .ofText "ticker"), ("price", .ofText "1e2"), ("side", .ofText "buy"),
        (field, .ofText text)]
    let ms : Members :=
      [("price", .string "1e2"), ("side", .string "buy"), ("time", .string "noon"),
        ("type", .string "ticker")]
    let others : Members :=
      [("low_24h", .string "?"), ("price", .string "1e2"), ("side", .string "buy"),
        ("type", .string "ticker")]
    Value.read? (frame "time" "noon").text = some (.object ms) ∧
      Value.read? (frame "low_24h" "?").text = some (.object others) ∧
      Says ms "type" tickerChannel ∧ AlikeButLoose ms others ∧
      SameEssentials (ofText? (frame "time" "noon").text "BTC-USD" ⟨"BTC-USD"⟩ default)
        (ofText? (frame "low_24h" "?").text "BTC-USD" ⟨"BTC-USD"⟩ default) := by
  intro frame ms others
  -- Both frames are read back from their documents, with the members in the order of their names.
  have hproper : ∀ field text, (frame field text).Proper :=
    fun _ _ => ⟨trivial, trivial, trivial, trivial, trivial⟩
  have hread : Value.read? (frame "time" "noon").text = some (.object ms) := by
    rw [Value.read?, Document.read?_text (hproper _ _)]
    simp only [frame, ms, Document.record, Document.ofText, deepest, Document.valueWithin?,
      Document.membersWithin?, List.map_cons, List.map_nil, Option.bind_some, Option.map_some,
      Keyed.put, String.reduceLT, String.reduceEq, ↓reduceIte]
  have hother : Value.read? (frame "low_24h" "?").text = some (.object others) := by
    rw [Value.read?, Document.read?_text (hproper _ _)]
    simp only [frame, others, Document.record, Document.ofText, deepest, Document.valueWithin?,
      Document.membersWithin?, List.map_cons, List.map_nil, Option.bind_some, Option.map_some,
      Keyed.put, String.reduceLT, String.reduceEq, ↓reduceIte]
  have hkind : Says ms "type" tickerChannel := rfl
  -- They differ in the time and the low alone, which say something or are absent.
  have hsame : ∀ name ∉ looseNames, others.lookup name = ms.lookup name := by
    intro name hname
    simp only [looseNames, List.mem_cons, List.not_mem_nil, or_false, not_or] at hname
    have htime : (name == "time") = false := beq_eq_false_iff_ne.mpr hname.1
    have hlow : (name == "low_24h") = false := beq_eq_false_iff_ne.mpr hname.2.2.1
    simp only [ms, others, List.lookup_cons, htime, hlow]
  have hloose : ∀ name ∈ looseNames, Lenient ms name ∧ Lenient others name := by
    simp only [looseNames, List.forall_mem_cons, List.not_mem_nil, false_imp_iff, implies_true,
      and_true]
    have habsent : ∀ names : Members, ∀ name, names.lookup name = none → Lenient names name :=
      fun _ _ h => .inl (.inl h)
    exact ⟨⟨.inr ⟨_, rfl⟩, habsent _ _ rfl⟩, ⟨habsent _ _ rfl, habsent _ _ rfl⟩,
      ⟨habsent _ _ rfl, .inr ⟨_, rfl⟩⟩, habsent _ _ rfl, habsent _ _ rfl⟩
  have halike : AlikeButLoose ms others := ⟨hsame, hloose⟩
  exact ⟨hread, hother, hkind, halike,
    (tick_iff_trades _ "BTC-USD" ⟨"BTC-USD"⟩ default).2.2 _ ms others hread hother hkind halike⟩

end FeedMessage

end TickChart
