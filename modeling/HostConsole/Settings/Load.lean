/-
Where settings come from. A path that is given is expanded, and the file has to be there. Otherwise the file in the
user's configuration directory is used if it is there, and if not the settings are those that hold when nothing is
said.
-/
import HostConsole.Files.Environment
import HostConsole.Files.Tree
import HostConsole.Settings.Decode

namespace HostConsole

namespace Path

/-- the directory of the user's configuration: the one set, if it is absolute, or the one in the home directory -/
def configHome? (environment : Environment) : Option String :=
  ((environment.find? "XDG_CONFIG_HOME").filter isAbsolute).or
    (environment.home?.map (join · ".config"))

/-- the directory of the console's configuration -/
def configDirectory? (environment : Environment) : Option String :=
  (configHome? environment).map (join · "devconsole")

/-- the file of the console's configuration -/
def configFile? (environment : Environment) : Option String :=
  (configDirectory? environment).map (join · "devconsole.toml")

end Path

namespace Settings

/-- why there are no settings -/
inductive LoadError where
  | unexpanded (error : Path.ExpansionError)
  | unreadable (path : String) (error : FileError)
  | malformed (path text : String) (error : Toml.ReadError)
  | refused (path text : String) (misfit : Misfit) (place : Toml.Span)
  | invalid (violation : Violation)
  deriving DecidableEq

/-- what lies behind a failure, with its own text -/
def LoadError.source? : LoadError → Option String
  | .unexpanded _ | .invalid _ => none
  | .unreadable _ error => some error.message
  | .malformed _ _ .other => some "TOML parse error\n"
  | .malformed _ text (.scalar error place) => some (Toml.excerpt text place error.message)
  | .refused _ text misfit place => some (Toml.excerpt text place misfit.message)

/-- the text of a failure -/
def LoadError.message (error : LoadError) : String :=
  let source := error.source?.getD ""
  match error with
  | .unexpanded error => error.message
  | .unreadable path _ => "Could not read config file '" ++ path ++ "': " ++ source
  | .malformed path .. | .refused path .. => "Failed to parse config file '" ++ path ++ "': " ++ source
  | .invalid violation => "Invalid value for '" ++ violation.key ++ "': " ++ violation.message

/-- the text of a failure followed by what lies behind it -/
def LoadError.fullMessage (error : LoadError) : String :=
  ": ".intercalate (error.message :: error.source?.toList)

/-- the settings in a file -/
def loadFile (files : Files) (path : String) : Except LoadError Settings :=
  match files.read path with
  | .error error => .error (.unreadable path error)
  | .ok text =>
    match ofText text with
    | .ok settings => .ok settings
    | .error (.malformed error) => .error (.malformed path text error)
    | .error (.misfit misfit place) => .error (.refused path text misfit place)
    | .error (.invalid violation) => .error (.invalid violation)

/-- the file to read for a path, or for none -/
def file? (environment : Environment) (given : Option String) : Except Path.ExpansionError (Option String) :=
  match given with
  | some path => (Path.expand environment path).map some
  | none => .ok (Path.configFile? environment)

/-- the settings for a path, or for none; a path that is given has to lead to a file -/
def load (environment : Environment) (files : Files) (given : Option String) : Except LoadError Settings :=
  match file? environment given with
  | .error error => .error (.unexpanded error)
  | .ok none => .ok {}
  | .ok (some path) => if given.isSome || files.isFile path then loadFile files path else .ok {}

end Settings

end HostConsole
