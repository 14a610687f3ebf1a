/-
Help texts. The listing has a line for each command: its name, a placeholder for each parameter, and the description
if there is one. The page of one command adds the types of its parameters.
-/
import HostConsole.Catalog.Basic

namespace HostConsole

/-- the line of a command in the listing -/
def Command.helpLine {H : Host} (command : Command H) : String :=
  let placeholders := command.parameters.map fun parameter => " <" ++ parameter.name ++ ">"
  let description := if command.description.isEmpty then "" else " - " ++ command.description
  command.name ++ String.join placeholders ++ description

/-- the parameters of a command with their types -/
def Command.helpParameters {H : Host} (command : Command H) : String :=
  if command.parameters.isEmpty then "Arguments: none"
  else
    let lines := command.parameters.map fun parameter => "- " ++ parameter.name ++ ": " ++ parameter.type.name
    "Arguments:\n" ++ "\n".intercalate lines

namespace Catalog

variable {H : Host}

/-- the listing of all commands -/
def helpListing (catalog : Catalog H) : String :=
  if catalog.isEmpty then "No commands registered."
  else "\n".intercalate (catalog.commands.toList.map Command.helpLine)

/-- the page of one command -/
def helpPage (catalog : Catalog H) (name : String) : String :=
  match catalog.find? name with
  | none => "Command '" ++ name ++ "' not found."
  | some command => command.name ++ "\n" ++ command.description ++ "\n\n" ++ command.helpParameters

/-- what `help` answers: the listing, or the page of the first word after it -/
def help (catalog : Catalog H) : List String → String
  | [] => catalog.helpListing
  | name :: _ => catalog.helpPage name

end Catalog

end HostConsole
