import TickChart.Backend.FetchError
import TickChart.Backend.History
import TickChart.Config.Settings
import TickChart.Time.Printer
import TickChart.Url.Reader

/-!
# Endpoints

What the backend is asked, and where.

* `ApiSettings.endpoint`: the address of a resource below the address of the backend.
* `ApiSettings.candlesEndpoint`, `ApiSettings.analysisEndpoint`: the addresses of the candles and of
  the indicators of a symbol.
* `ApiSettings.historyRequest`: the address of the candles of a window.
* `requestLine`: the first line of a request.
-/

namespace TickChart

open TickChart.Url

namespace ApiSettings

/-- The address of a resource, whose segments follow the address of the backend. -/
def endpoint (s : ApiSettings) (segments : List String) : Except FetchError Address :=
  match Address.read s.baseUrl with
  | .error error => .error (.url error.message)
  | .ok base =>
    match base.extend? segments with
    | some address => .ok address
    | none => .error (.url ("cannot be a base: " ++ s.baseUrl))

/-- `candles_url`: the address of the candles of a symbol. -/
def candlesEndpoint (s : ApiSettings) (symbol : Symbol) : Except FetchError Address :=
  s.endpoint ["market", "candles", s.exchange, symbol.text]

/-- `analysis_url`: the address of the indicators of a symbol. -/
def analysisEndpoint (s : ApiSettings) (symbol : Symbol) : Except FetchError Address :=
  s.endpoint ["coin", symbol.text, "analysis"]

/-- The names and values that ask for the candles of a window. -/
def historyPairs (s : ApiSettings) (f : Timeframe) (w : Window) : List (String × String) :=
  [("start", w.start.secondText), ("end", w.stop.secondText), ("timeframe", f.label),
   ("max_points", String.ofList (Text.digits s.maxPoints))]

/-- The address of the candles of a symbol in a window, which `HttpHistoryLoader.load` asks for. -/
def historyRequest (s : ApiSettings) (symbol : Symbol) (f : Timeframe) (w : Window) :
    Except FetchError Address :=
  (s.candlesEndpoint symbol).map (·.withPairs (s.historyPairs f w))

end ApiSettings

/-- The first line of the request for a resource. -/
def requestLine (a : Address) : String := "GET " ++ a.target ++ " HTTP/1.1"

end TickChart
