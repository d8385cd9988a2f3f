import TickChart.Market.Tick

/-!
# Commands

What a user types, one command a line.

* `Command`: the commands.
* `Command.ofLine?`: the command of a line, relative to what is selected. A line that is no command
  is passed over.
* `Command.usage`: a reminder of the commands.
-/

namespace TickChart

/-- A command of the user (`Input`). -/
inductive Command where
  | select (selection : Selection)
  | retry
  | quit
deriving DecidableEq

namespace Command

/-- A reminder of the commands (`USAGE`). -/
def usage : String := "commands: tf <1m|5m|15m|1h|4h|1d>, symbol <SYMBOL>, retry, quit"

/-- The command of a word, whose letters are in lower case, and of its argument. -/
def ofWord? (word : String) (argument : Option String) (current : Selection) : Option Command :=
  match argument with
  | some argument =>
    if word ∈ ["tf", "timeframe"] then
      (Timeframe.ofText? argument).toOption.map fun timeframe => select { current with timeframe }
    else if word ∈ ["symbol", "s"] then
      some (select { current with symbol := Symbol.ofText argument })
    else none
  | none =>
    if word ∈ ["retry", "r"] then some retry
    else if word ∈ ["quit", "exit", "q"] then some quit
    else none

/-- `parse_input`: the command of a line, a word in any case of its letters and at most one
argument. -/
def ofLine? (line : String) (current : Selection) : Option Command :=
  match Text.words line.toList with
  | [word] => ofWord? (String.ofList (Text.lowerAscii word)) none current
  | [word, argument] =>
    ofWord? (String.ofList (Text.lowerAscii word)) (some (String.ofList argument)) current
  | _ => none

end Command

end TickChart
