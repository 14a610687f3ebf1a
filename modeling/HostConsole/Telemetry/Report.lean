/-
Telemetry reports: the host's counters at one moment, with the frame rate and the memory figures computed from them.
Sizes are shown in megabytes with one place, the change of the heap with two.
-/
import HostConsole.Decimal.Basic

namespace HostConsole

/-- facts about the machine -/
structure Machine where
  cpu : String
  cores : Nat
  ramMegabytes : Option Nat
  gpu : String
  os : String
  deriving DecidableEq

/-- what a host counts -/
structure Counters where
  managedBytes : Nat
  totalBytes : Nat
  heapBytes : Nat
  objects : Nat
  scene : String
  sceneSeconds : Double
  realSeconds : Double
  timeScale : Double
  triangles : Option Nat
  drawCalls : Option Nat
  audioChannels : Nat
  machine : Machine
  deriving DecidableEq

/-- one telemetry report -/
structure Report where
  fps : Double
  managedMegabytes : Double
  totalMegabytes : Double
  heapMegabytes : Double
  heapChange : Double
  secondsSinceLast : Double
  counters : Counters
  deriving DecidableEq

namespace Report

/-- bytes of a megabyte -/
def megabyte : Double := Binary.ofNat (1024 * 1024)

/-- a count of bytes in megabytes -/
def megabytes (bytes : Nat) : Double :=
  Binary.div (Binary.ofNat bytes) megabyte

/-- a counter that a host may lack -/
def optional (count : Option Nat) (suffix : String) : String :=
  match count with
  | some n => toString n ++ suffix
  | none => "N/A"

/-- the facts about the machine, one below the other -/
def machineText (machine : Machine) : String :=
  "System info:\n- CPU: " ++ machine.cpu ++ "\n- Cores: " ++ toString machine.cores ++
    "\n- RAM: " ++ optional machine.ramMegabytes " MB" ++ "\n- GPU: " ++ machine.gpu ++ "\n- OS: " ++ machine.os

/-- the parts of a report -/
def lines (report : Report) : List String :=
  let c := report.counters
  ["FPS: " ++ report.fps.fixed 1,
   "RAM: Managed " ++ report.managedMegabytes.fixed 1 ++ " MB / Total " ++ report.totalMegabytes.fixed 1 ++ " MB",
   "GC: " ++ report.heapMegabytes.fixed 1 ++ " MB (delta: " ++ report.heapChange.fixed 2 ++ " MB, " ++
     report.secondsSinceLast.fixed 1 ++ "s)",
   "Objects: " ++ toString c.objects,
   "Scene: " ++ c.scene ++ " | Time: " ++ c.sceneSeconds.fixed 1 ++ "s | TS: " ++ c.timeScale.fixed 1,
   "Triangles: " ++ optional c.triangles "",
   "Draw calls: " ++ optional c.drawCalls "",
   "Audio channels playing sounds: " ++ toString c.audioChannels,
   machineText c.machine]

/-- the report as text -/
def text (report : Report) : String :=
  "\n".intercalate report.lines

end Report

end HostConsole
