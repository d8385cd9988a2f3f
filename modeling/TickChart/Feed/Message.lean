import TickChart.Json.Value
import TickChart.Market.Record

/-!
# Messages of the live feed

* `subscribeRequest`: what a subscriber sends.
* `FeedMessage`: what the feed sends: trades, the confirmation of a subscription, and complaints.
* `FeedMessage.ofText?`: the message of a text frame. Every number in it is a string.
-/

namespace TickChart

open TickChart.Json

/-- The channel that carries trades (`TICKER_CHANNEL`). -/
def tickerChannel : String := "ticker"

/-- `SubscribeRequest.ticker`: the request for the trades of a product. -/
def subscribeRequest (product : String) : Document :=
  .record
    [("type", .ofText "subscribe"), ("product_ids", .array [.ofText product]),
     ("channels", .array [.ofText tickerChannel])]

/-- The text of a trade's fields, as far as they are there (`CoinbaseTicker`). -/
structure TickerFields where
  product : Option String
  price : Option String
  size : Option String
  side : Option String
  time : Option String
  high : Option String
  low : Option String
  volume : Option String
deriving DecidableEq

namespace TickerFields

/-- A text that may be missing or `null`, but nothing else. -/
def optionalText? : Option Value → Option (Option String)
  | none => some none
  | some .null => some none
  | some (.string s) => some (some s)
  | some _ => none

/-- The fields of a message, each a text, missing or `null`. -/
def ofValue? (v : Value) : Option TickerFields := do
  some {
    product := ← optionalText? (v.get? "product_id")
    price := ← optionalText? (v.get? "price")
    size := ← optionalText? (v.get? "last_size")
    side := ← optionalText? (v.get? "side")
    time := ← optionalText? (v.get? "time")
    high := ← optionalText? (v.get? "high_24h")
    low := ← optionalText? (v.get? "low_24h")
    volume := ← optionalText? (v.get? "volume_24h") }

/-- `parse_decimal`: the decimal of a field. -/
def decimal (field value : String) : Except ReadError Decimal :=
  match Decimal.readTrimmed? value with
  | some d => .ok d
  | none => .error (.invalidField field value)

/-- A field that must be there. -/
def required (field : String) : Option String → Except ReadError String
  | some value => .ok value
  | none => .error (.missingField field)

/-- The product is the subscribed one, or none is given. -/
def checkProduct (expected : String) : Option String → Except ReadError Unit
  | some actual =>
    if actual = expected then .ok () else .error (.unexpectedProduct expected actual)
  | none => .ok ()

/-- The price, which is positive. -/
def checkPrice (price : Decimal) : Except ReadError Decimal :=
  if price ≤ Decimal.zero then .error (.invalidField "price" price.text) else .ok price

/-- The statistics of the last day; a figure that cannot be read is not known. -/
def stats (f : TickerFields) : DailyStats where
  high := f.high.bind Decimal.readTrimmed?
  low := f.low.bind Decimal.readTrimmed?
  volume := f.volume.bind Decimal.readTrimmed?

/-- `into_tick`: the tick that the fields describe. Without a size nothing was traded, and without a
readable time the tick is of the moment at which it was received. -/
def tick (f : TickerFields) (product : String) (symbol : Symbol) (received : Instant) :
    Except ReadError Tick := do
  checkProduct product f.product
  let price ← checkPrice (← decimal "price" (← required "price" f.price))
  let size ← match f.size with
    | some size => decimal "last_size" size
    | none => .ok Decimal.zero
  let side ← Side.ofText? (← required "side" f.side)
  let time := (f.time.bind fun time => Time.readStrict? time.toList).getD received
  .ok { symbol, price, size, side, time, stats := f.stats }

end TickerFields

/-- What the feed sends (`CoinbaseEvent`). -/
inductive FeedMessage where
  /-- A trade. -/
  | tick (tick : Tick)
  /-- The subscription is in place. -/
  | subscribed
  /-- The feed has an objection. -/
  | complaint (reason : String)
deriving DecidableEq

namespace FeedMessage

/-- The message of a value, by its type. -/
def ofValue? (v : Value) (product : String) (symbol : Symbol) (received : Instant) :
    Except ReadError FeedMessage :=
  match (v.get? "type").bind Value.text? with
  | none => .error .missingType
  | some kind =>
    if kind = tickerChannel then
      match TickerFields.ofValue? v with
      | some fields => (fields.tick product symbol received).map .tick
      | none => .error .notJson
    else if kind = "subscriptions" then .ok .subscribed
    else if kind = "error" then
      let reason := (v.get? "reason" <|> v.get? "message").bind Value.text?
      .ok (.complaint (reason.getD ""))
    else .error (.unsupported kind)

/-- `parse_message`: the message of a text frame on the subscription to `product`. -/
def ofText? (text : String) (product : String) (symbol : Symbol) (received : Instant) :
    Except ReadError FeedMessage :=
  match Value.read? text with
  | some v => ofValue? v product symbol received
  | none => .error .notJson

end FeedMessage

end TickChart
