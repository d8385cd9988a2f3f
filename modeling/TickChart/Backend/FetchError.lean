import TickChart.Json.Record
import TickChart.Text.Integer

/-!
# Failures of a fetch

* `FetchError`: why a request to the backend gave no answer.
* `FetchError.message`: the text for each reason.
* `FetchError.retryable`: the same request may succeed later.
-/

namespace TickChart

open TickChart.Json

/-- Why a request gave no answer. -/
inductive FetchError where
  /-- The address of the backend cannot be requested. -/
  | url (reason : String)
  /-- The request was not sent, or nothing came back. -/
  | request (reason : String)
  /-- The backend answered with a status that is no success. -/
  | status (code : Nat)
  /-- The answer is not of the expected form. -/
  | decode (reason : String)
deriving DecidableEq

namespace FetchError

/-- The text of an error. -/
def message : FetchError → String
  | url reason => "invalid request url: " ++ reason
  | request reason => "HTTP request failed: " ++ reason
  | status code => "HTTP error: " ++ String.ofList (Text.digits code)
  | decode reason => "failed to decode response: " ++ reason

/-- `is_retryable`: the same request may succeed later, since nothing came back, there were too many
requests, or the backend failed. -/
def retryable : FetchError → Bool
  | request _ => true
  | status code => code = 429 || 500 ≤ code
  | url _ | decode _ => false

/-- The error as an object with one member. -/
def toDocument : FetchError → Document
  | url reason => .record [("Url", .ofText reason)]
  | request reason => .record [("Request", .ofText reason)]
  | status code => .record [("Status", .ofInt code)]
  | decode reason => .record [("Decode", .ofText reason)]

/-- The error that an object with one member tells. A status has 16 bits. -/
def ofDocument? (d : Document) : Option FetchError := do
  let (name, content) ← d.variant?
  if name = "Url" then content.text?.map url
  else if name = "Request" then content.text?.map request
  else if name = "Status" then (content.intIn? 0 65535).map fun n => status n.toNat
  else if name = "Decode" then content.text?.map decode
  else none

end FetchError

end TickChart
