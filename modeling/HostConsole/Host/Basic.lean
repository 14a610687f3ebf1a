/-
Hosts and what their commands do. A host is an application that embeds the console: a world that commands read and
change, and kinds of receivers, each with a qualified name and with references to its live instances in the world.

A command's handler is an action: it changes the world, emits records of the host's logging, and either finishes or
fails. A failure is an error with its chain of contexts, or a panic; both leave the changes made so far in place.
-/
import HostConsole.Value.Arguments
import HostConsole.Log.Capture

namespace HostConsole

/-- an application that embeds the console -/
structure Host where
  /-- what commands read and change -/
  World : Type
  /-- the kinds of receivers -/
  Kind : Type
  [kindDecidableEq : DecidableEq Kind]
  /-- references to the live instances of a kind -/
  Instance : Kind → Type
  /-- the qualified name of a kind -/
  kindName : Kind → String

attribute [instance] Host.kindDecidableEq

/-- a place in a world that holds a value -/
structure Cell (World : Type) (α : Type) where
  get : World → α
  set : α → World → World

/-- change the value of a cell -/
def Cell.update {World α : Type} (cell : Cell World α) (f : α → α) (world : World) : World :=
  cell.set (f (cell.get world)) world

/-! ## Failures -/

/-- how a handler fails: an error with its contexts, the outermost first, or a panic with its text if it has one -/
inductive Failure where
  | error (chain : List String)
  | panic (text : Option String)
  deriving DecidableEq

/-- the text of a failure -/
def Failure.message : Failure → String
  | error chain => ": ".intercalate chain
  | panic (some text) => text
  | panic none => "command panicked"

/-! ## Actions -/

/-- what a handler works on: the world, and the records emitted so far -/
structure Scope (H : Host) where
  world : H.World
  records : List Record

/-- what a handler does -/
abbrev Action (H : Host) := EStateM Failure (Scope H)

/-- what runs when a command is invoked -/
abbrev Handler (H : Host) := Arguments → Action H Unit

namespace Action

variable {H : Host} {α : Type}

/-- read the world -/
def world : Action H H.World := do
  return (← get).world

/-- change the world -/
def change (f : H.World → H.World) : Action H Unit :=
  modify fun scope => { scope with world := f scope.world }

/-- emit a record -/
def emit (level : Level) (message : String) : Action H Unit :=
  modify fun scope => { scope with records := scope.records ++ [⟨level, message⟩] }

/-- fail with an error of one text -/
def fail (message : String) : Action H α :=
  throw (.error [message])

/-- an argument, or the failure to read it: a panic if the failure cannot be reported -/
def argument (read : Except Arguments.AccessError α) : Action H α :=
  match read with
  | .ok value => pure value
  | .error .overflow => throw (.panic (some Arguments.AccessError.overflow.message))
  | .error e => fail e.message

end Action

end HostConsole
