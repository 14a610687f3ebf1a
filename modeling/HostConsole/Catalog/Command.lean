/-
Commands before and after registration. A declaration is what the host writes: a name, a description, parameter
declarations, and a handler, which is free or bound to a kind of receiver. A command is what the catalog keeps: the
folded name, the parameters, and the handler together with the receiver it was bound to.

The handler of a bound declaration takes a receiver of any kind and refuses all kinds but its own.

Kinds are shown by short names. A qualified name is a path such as `game::world::Clock`, possibly with arguments in
angle brackets; its short name leaves out the path before the last separator that comes before the first bracket.
-/
import HostConsole.Host.Receivers
import HostConsole.Value.Parameter

namespace HostConsole

/-! ## Names of kinds -/

namespace Text

/-- what follows the last separator before the first angle bracket, or `best` when there is none -/
def shortNameFrom (best : List Char) : List Char → List Char
  | [] => best
  | c :: rest =>
    if c = '<' then best
    else if c = ':' && rest.head? = some ':' then shortNameFrom rest.tail rest
    else shortNameFrom best rest

/-- the last segment of a qualified name with its arguments -/
def shortName (full : String) : String :=
  String.ofList (shortNameFrom full.toList full.toList)

end Text

/-! ## Declarations -/

/-- what a declared command runs on -/
inductive DeclaredTarget (H : Host) where
  | free (run : Handler H)
  | bound (kind : H.Kind) (run : Receiver H → Handler H)

/-- a command as the host declares it -/
structure Declaration (H : Host) where
  name : String
  description : String
  parameters : List String
  target : DeclaredTarget H

namespace Declaration

variable {H : Host}

/-- declare a command that needs no receiver -/
def free (name description : String) (parameters : List String) (run : Handler H) : Declaration H :=
  ⟨name, description, parameters, .free run⟩

/-- run a handler of one kind on a receiver of any kind -/
def onKind (kind : H.Kind) (run : H.Instance kind → Handler H) (receiver : Receiver H) : Handler H :=
  match receiver.as? kind with
  | some ref => run ref
  | none => fun _ => Action.fail ("Receiver is not an instance of " ++ H.kindName kind)

/-- declare a command that runs on the instance of a kind -/
def bound (kind : H.Kind) (name description : String) (parameters : List String)
    (run : H.Instance kind → Handler H) : Declaration H :=
  ⟨name, description, parameters, .bound kind (onKind kind run)⟩

/-- the name under which the command is kept -/
def key (declaration : Declaration H) : String :=
  Text.foldName declaration.name

end Declaration

/-- what a registered command runs on -/
inductive Target (H : Host) where
  | free (run : Handler H)
  | bound (receiver : Receiver H) (run : Receiver H → Handler H)

/-- a registered command -/
structure Command (H : Host) where
  name : String
  description : String
  parameters : List Parameter
  target : Target H

namespace Command

variable {H : Host}

/-- the short name of the kind a command is bound to -/
def boundTo? (command : Command H) : Option String :=
  match command.target with
  | .free _ => none
  | .bound receiver _ => some (Text.shortName (H.kindName receiver.kind))

/-- run the handler, on its receiver if it has one -/
def invoke (command : Command H) : Handler H :=
  match command.target with
  | .free run => run
  | .bound receiver run => run receiver

end Command

end HostConsole
