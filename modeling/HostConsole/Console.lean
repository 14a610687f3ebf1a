/-
The console: a catalog of commands, the bounded log, the telemetry meter and the rate graph, behind one switch that
shows or hides the overlay. Frames count only while the overlay is shown; commands run and the log grows at any time.

A console is made around a log that is there, which always succeeds, or with a new log. The memory for a new log is
reserved at once, and settings may ask for more than can be reserved; then no console is made.

The overlay has an activation key, compared in any ASCII case, blanks around the pressed key left out.
-/
import HostConsole.Dispatch
import HostConsole.Reservation
import HostConsole.Telemetry.Meter

namespace HostConsole

/-- the console of a host -/
structure Console (H : Host) where
  catalog : Catalog H
  journal : Journal
  /-- which records of the host reach the log -/
  captured : LevelFilter
  meter : Meter
  graph : RateGraph
  visible : Bool
  toggleKey : String
  /-- colours are wanted -/
  colours : Bool
  /-- the output can show colours -/
  terminal : Bool

namespace Console

variable {H : Host}

/-- the console for settings and a setup around a log; declarations that are refused are noted there -/
def withJournal (settings : Settings) (setup : Setup H) (journal : Journal) (captured : LevelFilter) (terminal : Bool) :
    Console H :=
  let (catalog, warnings) := setup.build
  { catalog
    journal := journal.appendAll warnings
    captured
    meter := Meter.ofInterval settings.sampleInterval
    graph := RateGraph.ofSize settings.graphWidth settings.graphHeight
    visible := settings.startVisible
    toggleKey := settings.toggleKey
    colours := settings.colours
    terminal }

/-- the console for settings and a setup with a new log, or the first reservation that cannot be made -/
def ofSettings (settings : Settings) (setup : Setup H) (captured : LevelFilter) (terminal : Bool) :
    Except Reservation (Console H) :=
  match settings.reservations.find? fun reservation => !reservation.fits with
  | some reservation => .error reservation
  | none => .ok (withJournal settings setup (Journal.ofCapacity settings.maxLogLines) captured terminal)

/-! ## Input -/

/-- append one entry to the log -/
def log (console : Console H) (entry : Entry) : Console H :=
  { console with journal := console.journal.append entry }

/-- execute one line; its entries go to the log -/
def submit (console : Console H) (text : String) (world : H.World) :
    Except Fault Outcome × Console H × H.World :=
  let execution := console.catalog.execute console.captured text world
  (execution.outcome, { console with journal := console.journal.appendAll execution.entries }, execution.world)

/-- show or hide the overlay -/
def setVisible (console : Console H) (visible : Bool) : Console H :=
  { console with visible }

/-- show the overlay if it is hidden, and hide it otherwise -/
def toggle (console : Console H) : Console H :=
  console.setVisible (!console.visible)

/-- the key is the activation key -/
def isToggleKey (console : Console H) (key : String) : Bool :=
  Text.sameIgnoringAsciiCase (Text.trim key) console.toggleKey

/-- take a key; the activation key shows or hides the overlay -/
def handleKey (console : Console H) (key : String) : Bool × Console H :=
  if console.isToggleKey key then (true, console.toggle) else (false, console)

/-! ## Frames -/

/-- one frame of so many seconds, if the overlay is shown -/
def update (console : Console H) (seconds : Single) (counters : Unit → Counters) : Console H :=
  if console.visible then
    { console with
      meter := (console.meter.tick seconds counters).1
      graph := (console.graph.pushFrame seconds).redraw }
  else console

/-! ## Output -/

/-- entries are written in colour -/
def coloured (console : Console H) : Bool :=
  console.colours && console.terminal

/-- the log as text -/
def render (console : Console H) : String :=
  console.journal.render console.coloured

/-- the latest report as text -/
def telemetryText? (console : Console H) : Option String :=
  console.meter.latest.map Report.text

end Console

end HostConsole
