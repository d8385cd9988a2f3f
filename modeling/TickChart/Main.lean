import TickChart.Backend.Endpoint
import TickChart.Command

/-!
# The command line

The program reads commands, one a line, and says what the chart turns to: the selection, the product
whose ticks it subscribes to, and the addresses of its history and its indicators.
-/

namespace TickChart

/-- The line that tells of an endpoint, or why there is none. -/
def endpointLine (name : String) : Except FetchError Url.Address → String
  | .ok address => name ++ ": " ++ address.text
  | .error error => name ++ ": " ++ error.message

/-- The lines that tell of a selection. -/
def selectionLines (s : Settings) (selection : Selection) : List String :=
  ["selection: " ++ selection.text, "product: " ++ selection.symbol.product,
   endpointLine "history" (s.api.candlesEndpoint selection.symbol),
   endpointLine "indicators" (s.api.analysisEndpoint selection.symbol)]

/-- The selection that the environment asks for: by default bitcoin in dollars, with candles of five
minutes. -/
def selectionOfEnvironment (lookup : String → Option String) : Selection where
  symbol := .ofText ((lookup "SYMBOL").getD "BTC-USD")
  timeframe := ((lookup "TIMEFRAME").bind fun s => (Timeframe.ofText? s).toOption).getD .m5

/-- The variables of the environment that the program looks at. -/
def variableNames : List String :=
  ["FEED_URL", "API_URL", "EXCHANGE", "MAX_POINTS", "INDICATOR_POLL_SECS", "RECONNECT_MAX_SECS",
   "SYMBOL", "TIMEFRAME"]

/-- Prints lines. -/
def printLines (lines : List String) : IO Unit := lines.forM fun line => IO.println line

/-- Reads commands until there are no more, or until one of them ends the program. Lines of blanks
are passed over. -/
partial def readCommands (settings : Settings) (current : Selection) : IO Unit := do
  let line ← (← IO.getStdin).getLine
  if line.isEmpty then return
  if (Text.trim line.toList).isEmpty then
    readCommands settings current
  else
    match Command.ofLine? line current with
    | some .quit => return
    | some .retry =>
      printLines (selectionLines settings current)
      readCommands settings current
    | some (.select selection) =>
      printLines (selectionLines settings selection)
      readCommands settings selection
    | none =>
      IO.println Command.usage
      readCommands settings current

end TickChart

/-- The program. -/
def main : IO Unit := do
  let found ← TickChart.variableNames.mapM fun name => do return (name, ← IO.getEnv name)
  let lookup := fun name => (found.lookup name).join
  let settings := TickChart.Settings.ofEnvironment lookup
  let selection := TickChart.selectionOfEnvironment lookup
  TickChart.printLines (TickChart.selectionLines settings selection ++ [TickChart.Command.usage])
  TickChart.readCommands settings selection
