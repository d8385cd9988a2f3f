/-!
# Failures

* `Fault`: an arithmetic limit that an operation ran into. Nothing can go on from it: what was
  computed so far is lost.
* `ReadError`: why a message, a field of it or a word of a user was not understood.
* `Fault.message`, `ReadError.message`: the texts for them.
-/

namespace TickChart

/-! ## Faults -/

/-- A limit of the arithmetic. -/
inductive Fault where
  /-- A sum of decimals needs more than 96 bits. -/
  | sumTooLarge
  /-- An instant lies before the first one that there is. -/
  | beforeAllTime
deriving DecidableEq

/-- The text of a fault. -/
def Fault.message : Fault → String
  | sumTooLarge => "Addition overflowed"
  | beforeAllTime => "`DateTime - TimeDelta` overflowed"

/-! ## Messages that cannot be read -/

/-- Why a text was not understood (`ParseError`). -/
inductive ReadError where
  /-- The text is not JSON, or a field has the wrong kind of value. -/
  | notJson
  /-- The message does not say what it is. -/
  | missingType
  /-- The message is of a kind that nothing here reads. -/
  | unsupported (kind : String)
  /-- A field that the message must have is not in it. -/
  | missingField (field : String)
  /-- A field has a value that it cannot have. -/
  | invalidField (field value : String)
  /-- The message is about another product than the subscribed one. -/
  | unexpectedProduct (expected actual : String)
  /-- The word names no timeframe. -/
  | unknownTimeframe (word : String)
deriving DecidableEq

/-- The text of an error. -/
def ReadError.message : ReadError → String
  | notJson => "invalid JSON"
  | missingType => "message has no type"
  | unsupported kind => "unsupported message type: " ++ kind
  | missingField field => "missing field: " ++ field
  | invalidField field value => "invalid " ++ field ++ ": " ++ value
  | unexpectedProduct expected actual =>
    "message for product " ++ actual ++ " received on " ++ expected ++ " subscription"
  | unknownTimeframe word => "unknown timeframe: " ++ word

end TickChart
