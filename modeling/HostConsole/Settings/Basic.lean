/-
Settings of the console, with the value each one has when nothing else is said, and the check that every set of
settings from a file has to pass.
-/
import HostConsole.Decimal.Shortest
import HostConsole.Graph.Basic
import HostConsole.Log.Journal
import HostConsole.Text.Blank

namespace HostConsole

/-- settings of the console -/
structure Settings where
  maxLogLines : Nat := Journal.defaultCapacity
  sampleInterval : Single := Binary.ofRatio false Format.single.one 2
  toggleKey : String := "F5"
  graphWidth : Nat := 1000
  graphHeight : Nat := 500
  startVisible : Bool := false
  colours : Bool := true
  deriving DecidableEq

namespace Settings

/-- how a value breaks the rules -/
inductive Violation where
  | noLines
  | interval (seconds : Single)
  | sides (width height : Nat)
  | blankKey
  deriving DecidableEq

/-- the setting concerned -/
def Violation.key : Violation → String
  | noLines => "max_log_lines"
  | interval _ => "sample_interval_secs"
  | sides .. => "graph_width/graph_height"
  | blankKey => "toggle_key"

/-- the text of a violation -/
def Violation.message : Violation → String
  | noLines => "must be at least 1"
  | interval seconds => "must be a positive number, got " ++ seconds.text
  | sides width height =>
    "must both be between 2 and " ++ toString RateGraph.maxSide ++ ", got " ++ toString width ++ "x" ++
      toString height
  | blankKey => "must not be empty"

/-- a side that a graph can have -/
def isSide (side : Nat) : Bool :=
  2 ≤ side && side ≤ RateGraph.maxSide

/-- a finite time above zero -/
def isInterval (seconds : Single) : Bool :=
  seconds.isFinite && (Binary.zero false).lt seconds

/-- the first violation, in the order of the settings -/
def check (settings : Settings) : Option Violation :=
  if settings.maxLogLines = 0 then some .noLines
  else if !isInterval settings.sampleInterval then some (.interval settings.sampleInterval)
  else if !isSide settings.graphWidth || !isSide settings.graphHeight then
    some (.sides settings.graphWidth settings.graphHeight)
  else if (Text.trim settings.toggleKey).isEmpty then some .blankKey
  else none

end Settings

end HostConsole
