/-
The demonstration host: one clock, one list of scenes, and the stock commands on both. Its counters show the scenes,
the active scene with its age in scaled time, and the time scale; it has no memory figures of its own.
-/
import HostConsole.Catalog.Basic
import HostConsole.Demo.Commands
import HostConsole.Telemetry.Report

namespace HostConsole.Demo

/-- what the demonstration host holds; `now` is in seconds since the start -/
structure World where
  clock : Clock
  scenes : Scenes
  now : Double
  deriving DecidableEq

/-- the kinds of receivers of the demonstration host -/
inductive Kind where
  | clock
  | scenes
  deriving DecidableEq

/-- the qualified name of a kind -/
def Kind.qualifiedName : Kind → String
  | clock => "devconsole::cli::commands::GameClock"
  | scenes => "devconsole::cli::commands::SceneDirector"

/-- the demonstration host; of each kind it has one instance -/
def host : Host where
  World := World
  Kind := Kind
  Instance := fun _ => Unit
  kindName := Kind.qualifiedName

/-- the clock of the world -/
def clockCell : Cell World Clock :=
  ⟨World.clock, fun clock world => { world with clock }⟩

/-- the scenes of the world -/
def scenesCell : Cell World Scenes :=
  ⟨World.scenes, fun scenes world => { world with scenes }⟩

/-- where the demonstration host keeps its clock and scenes -/
def stage : Stage host where
  clockKind := Kind.clock
  scenesKind := Kind.scenes
  clock := fun _ => clockCell
  scenes := fun _ => scenesCell
  now := World.now

/-- the receivers and stock commands of the demonstration host -/
def setup : Setup host :=
  ((Setup.empty.receiver ⟨Kind.clock, ()⟩).receiver ⟨Kind.scenes, ()⟩).commands stage.declarations

namespace World

/-- a world with these scenes -/
def ofScenes (names : List String) : World :=
  ⟨.start, .ofNames names, Binary.zero false⟩

/-- the world at the start -/
def start : World :=
  ofScenes Scenes.defaultNames

/-- the counters of the world on a machine -/
def counters (machine : Machine) (world : World) : Counters where
  managedBytes := 0
  totalBytes := 0
  heapBytes := 0
  objects := world.scenes.names.length
  scene := world.scenes.current
  sceneSeconds := (world.scenes.age world.now).mul world.clock.scale
  realSeconds := world.now
  timeScale := world.clock.scale
  triangles := none
  drawCalls := none
  audioChannels := 0
  machine := machine

end World

end HostConsole.Demo
