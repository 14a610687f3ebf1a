/-
A fixed list of scenes, one of which is active, and the moment when it was last loaded. Scenes are loaded by their
exact names; of two scenes with one name the first is loaded.
-/
import HostConsole.Binary.Arithmetic

namespace HostConsole.Demo

/-- scenes and the place of the active one -/
structure Scenes where
  names : List String
  active : Nat
  loadedAt : Double
  deriving DecidableEq

namespace Scenes

/-- the scenes of the demonstration -/
def defaultNames : List String := ["MainMenu", "Sandbox", "Arena"]

/-- scenes of which the first is active -/
def ofNames (names : List String) : Scenes :=
  ⟨names, 0, Binary.zero false⟩

/-- the name of the active scene, empty if there are no scenes -/
def current (scenes : Scenes) : String :=
  scenes.names[scenes.active]?.getD ""

/-- make the scene of a name the active one -/
def load? (scenes : Scenes) (name : String) (now : Double) : Option Scenes :=
  (scenes.names.idxOf? name).map fun active => { scenes with active, loadedAt := now }

/-- load the active scene again -/
def reload (scenes : Scenes) (now : Double) : Scenes :=
  { scenes with loadedAt := now }

/-- how long ago the active scene was loaded -/
def age (scenes : Scenes) (now : Double) : Double :=
  now.sub scenes.loadedAt

end Scenes

end HostConsole.Demo
