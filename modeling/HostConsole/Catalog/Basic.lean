/-
The catalog of commands: the commands in the order of their registration, and an index from folded names to places.

Registering checks that the name is new, then that it is a name at all and not the reserved word, then the parameters
in order, and last that an instance of the bound kind is there. The first check that fails gives the reason, and the
catalog stays as it was. Building a catalog registers declarations in order and reports every refusal as a warning.
-/
import Std.Data.HashMap
import HostConsole.Catalog.Command

namespace HostConsole

/-- the word that asks for help; no command has this name -/
def helpWord : String := "help"

/-- why a declaration is not registered -/
inductive RegistrationError where
  | duplicate (command : String)
  | invalidName (name : String)
  | reservedName (command : String)
  | unsupportedType (command tag : String)
  | invalidParameter (command declaration : String)
  | missingReceiver (command kind : String)
  deriving DecidableEq

/-- the text of a refusal -/
def RegistrationError.message : RegistrationError → String
  | duplicate command => "Command " ++ command ++ " already registered."
  | invalidName name =>
    "Invalid command name '" ++ name ++ "': names must be non-empty and contain no whitespace."
  | reservedName command => "'" ++ command ++ "' is a reserved command name."
  | unsupportedType command tag =>
    "Command '" ++ command ++ "' declares an unsupported parameter type '" ++ tag ++ "'."
  | invalidParameter command declaration =>
    "Command '" ++ command ++ "' has an invalid parameter declaration '" ++ declaration ++ "'."
  | missingReceiver command kind => "Instance of " ++ kind ++ " not found for command '" ++ command ++ "'."

/-- the commands in order, and the place of each name -/
structure Catalog (H : Host) where
  commands : Array (Command H)
  index : Std.HashMap String Nat

namespace Catalog

variable {H : Host}

/-- no commands -/
def empty : Catalog H := ⟨#[], {}⟩

/-- how many commands there are -/
def size (catalog : Catalog H) : Nat :=
  catalog.commands.size

/-- there is no command -/
def isEmpty (catalog : Catalog H) : Bool :=
  catalog.commands.isEmpty

/-- the command of a name, in any spelling -/
def find? (catalog : Catalog H) (name : String) : Option (Command H) :=
  catalog.index[Text.foldName name]?.bind (catalog.commands[·]?)

/-- there is a command of the name, in any spelling -/
def contains (catalog : Catalog H) (name : String) : Bool :=
  (catalog.find? name).isSome

/-! ## Registering -/

/-- the folded name, if it can be the name of a command -/
def checkName (name : String) : Except RegistrationError String :=
  let folded := Text.foldName name
  if folded.isEmpty || folded.toList.any Text.isBlank then .error (.invalidName name)
  else if folded = helpWord then .error (.reservedName folded)
  else .ok folded

/-- the parameters declared, or the first declaration that is refused -/
def checkParameters (command : String) : List String → Except RegistrationError (List Parameter)
  | [] => .ok []
  | declaration :: rest =>
    match Parameter.ofDeclaration declaration with
    | .ok parameter => (checkParameters command rest).map (parameter :: ·)
    | .error (.unsupportedType tag) => .error (.unsupportedType command tag)
    | .error (.malformed _) => .error (.invalidParameter command declaration)

/-- the handler with its receiver -/
def checkTarget (receivers : Receivers H) (command : String) :
    DeclaredTarget H → Except RegistrationError (Target H)
  | .free run => .ok (.free run)
  | .bound kind run =>
    match receivers.find? kind with
    | some receiver => .ok (.bound receiver run)
    | none => .error (.missingReceiver command (Text.shortName (H.kindName kind)))

/-- the command of a declaration, its name apart from all others -/
def resolve (receivers : Receivers H) (declaration : Declaration H) : Except RegistrationError (Command H) := do
  let name ← checkName declaration.name
  let parameters ← checkParameters name declaration.parameters
  let target ← checkTarget receivers name declaration.target
  return ⟨name, declaration.description, parameters, target⟩

/-- put a command at the end -/
def push (catalog : Catalog H) (command : Command H) : Catalog H :=
  ⟨catalog.commands.push command, catalog.index.insert command.name catalog.commands.size⟩

/-- register one declaration; a name once registered keeps its command -/
def register (catalog : Catalog H) (receivers : Receivers H) (declaration : Declaration H) :
    Catalog H × Option RegistrationError :=
  if catalog.index.contains declaration.key then (catalog, some (.duplicate declaration.key))
  else
    match resolve receivers declaration with
    | .ok command => (catalog.push command, none)
    | .error e => (catalog, some e)

/-- register a declaration after others, noting a refusal as a warning -/
def registerNoting (receivers : Receivers H) (state : Catalog H × List Entry) (declaration : Declaration H) :
    Catalog H × List Entry :=
  match state.1.register receivers declaration with
  | (catalog, none) => (catalog, state.2)
  | (catalog, some e) => (catalog, state.2 ++ [⟨.warning, e.message⟩])

/-- the catalog of declarations, and a warning for each one refused, in order -/
def build (receivers : Receivers H) (declarations : List (Declaration H)) : Catalog H × List Entry :=
  declarations.foldl (registerNoting receivers) (empty, [])

end Catalog

/-- receivers and declarations collected in any order; the catalog is built from all of them at once -/
structure Setup (H : Host) where
  receivers : Receivers H
  declarations : List (Declaration H)

namespace Setup

variable {H : Host}

/-- nothing collected -/
def empty : Setup H := ⟨.empty, []⟩

/-- collect a receiver -/
def receiver (setup : Setup H) (r : Receiver H) : Setup H :=
  { setup with receivers := setup.receivers.insert r }

/-- collect a declaration -/
def command (setup : Setup H) (declaration : Declaration H) : Setup H :=
  { setup with declarations := setup.declarations ++ [declaration] }

/-- collect declarations -/
def commands (setup : Setup H) (declarations : List (Declaration H)) : Setup H :=
  { setup with declarations := setup.declarations ++ declarations }

/-- the catalog of all that was collected, and a warning for each declaration refused -/
def build (setup : Setup H) : Catalog H × List Entry :=
  Catalog.build setup.receivers setup.declarations

end Setup

end HostConsole
