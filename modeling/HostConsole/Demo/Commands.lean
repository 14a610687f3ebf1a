/-
The stock commands: they set the time scale of a clock and load scenes. They run on any host that has a kind of
clocks and a kind of scene lists, and speak through the host's logging.
-/
import HostConsole.Catalog.Command
import HostConsole.Demo.Clock
import HostConsole.Demo.Scenes

namespace HostConsole.Demo

/-- where a host keeps its clocks and scenes -/
structure Stage (H : Host) where
  clockKind : H.Kind
  scenesKind : H.Kind
  clock : H.Instance clockKind → Cell H.World Clock
  scenes : H.Instance scenesKind → Cell H.World Scenes
  /-- seconds since the host started -/
  now : H.World → Double

namespace Stage

variable {H : Host}

/-- give a clock another scale, or fail -/
def setScale (cell : Cell H.World Clock) (value : Double) : Action H Unit := do
  match (cell.get (← Action.world)).setScale value with
  | .ok clock => Action.change (cell.set clock)
  | .error refused => Action.fail refused.message

/-- set the time scale -/
def setTimescale (stage : Stage H) : Declaration H :=
  .bound stage.clockKind "set_timescale" "Set global timescale to value." ["value:float"] fun ref arguments => do
    let value ← Action.argument (arguments.float 0)
    setScale (stage.clock ref) value
    Action.emit .info ("Time scale set to " ++ value.text ++ ".")

/-- go back to real time -/
def resetTimescale (stage : Stage H) : Declaration H :=
  .bound stage.clockKind "reset_timescale" "Resets global timescale to default value." [] fun ref _ => do
    setScale (stage.clock ref) Clock.realTime
    Action.emit .info "Time scale has been reset."

/-- load the active scene again -/
def reloadScene (stage : Stage H) : Declaration H :=
  .bound stage.scenesKind "reload_scene" "Reloads current scene." [] fun ref _ => do
    let cell := stage.scenes ref
    let world ← Action.world
    let scenes := (cell.get world).reload (stage.now world)
    Action.change (cell.set scenes)
    Action.emit .info ("Scene " ++ scenes.current ++ " has been reloaded.")

/-- the lines of the scene list, the first scene having the given number -/
def sceneLines (number : Nat) : List String → List String
  | [] => []
  | name :: rest => (toString number ++ ": " ++ name) :: sceneLines (number + 1) rest

/-- list the scenes -/
def listScenes (stage : Stage H) : Declaration H :=
  .bound stage.scenesKind "list_scenes" "Lists all available scenes." [] fun ref _ => do
    let names := ((stage.scenes ref).get (← Action.world)).names
    Action.emit .info ("Scenes in build settings (" ++ toString names.length ++ "):")
    (sceneLines 0 names).forM (Action.emit .info)

/-- load a scene; a name that is not known is worth a warning -/
def setScene (stage : Stage H) : Declaration H :=
  .bound stage.scenesKind "set_scene" "Loads scene by name." ["scene_name:string"] fun ref arguments => do
    let name ← Action.argument (arguments.text 0)
    let cell := stage.scenes ref
    let world ← Action.world
    match (cell.get world).load? name (stage.now world) with
    | some scenes =>
      Action.change (cell.set scenes)
      Action.emit .info ("Scene '" ++ name ++ "' has been loaded.")
    | none =>
      Action.emit .warn ("Scene '" ++ name ++ "' cannot be loaded. Check scene name or build settings.")

/-- the stock commands -/
def declarations (stage : Stage H) : List (Declaration H) :=
  [stage.setTimescale, stage.resetTimescale, stage.reloadScene, stage.listScenes, stage.setScene]

end Stage

end HostConsole.Demo
