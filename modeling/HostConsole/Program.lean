/-
The program: the console around the demonstration host, with its command line, its settings and its exit code.

Settings come from the file that the command line names, or from the user's configuration; the command line may show
the overlay at the start and switch colours off. Lines given on the command line are run without a prompt; if there
are none, lines are read from the input. If no console can be made for the settings, because they ask for more memory
than can be reserved at once, the program panics before it does anything else.
-/
import HostConsole.Demo.Host
import HostConsole.Options
import HostConsole.Session.Basic
import HostConsole.Settings.Load

namespace HostConsole

/-- the output shows colours: they are forced, or nothing forbids them and it is a terminal -/
def Environment.showsColours (environment : Environment) (terminal : Bool) : Bool :=
  if (environment.find? "CLICOLOR_FORCE").any (· ≠ "0") then true
  else if (environment.find? "NO_COLOR").isSome then false
  else (environment.find? "CLICOLOR").all (· ≠ "0") && terminal

namespace Program

/-- what the program finds when it is started -/
structure Launch where
  arguments : List String
  environment : Environment
  files : Files
  /-- the output goes to a terminal -/
  terminal : Bool
  machine : Machine

/-- what the program leaves behind -/
structure Finish where
  exitCode : UInt8
  output : String
  errors : String
  deriving DecidableEq

/-- what `--help` answers -/
def usage : String :=
  "An interactive developer console for a running application.\n\nUsage: devconsole [OPTIONS]\n\nOptions:\n" ++
    "      --config <PATH>   Read settings from this TOML file\n" ++
    "      --visible         Start with the overlay shown\n" ++
    "      --no-color        Write without colours\n" ++
    "  -c, --command <LINE>  Run this line and exit; may be given several times\n" ++
    "  -h, --help            Show this help\n" ++
    "  -V, --version         Show the version\n"

/-- what `--version` answers -/
def version : String := "devconsole 0.1.0\n"

/-- the end of a program whose command line gives no options -/
def Finish.ofStop (stop : Options.Stop) : Finish :=
  let (output, errors) :=
    match stop with
    | .help => (usage, "")
    | .version => (version, "")
    | .unknownArgument => ("", "error: unexpected argument\n\n" ++ usage)
    | .missingValue => ("", "error: a value is missing\n\n" ++ usage)
    | .repeated => ("", "error: an option was given twice\n\n" ++ usage)
    | .unexpectedValue => ("", "error: unexpected value\n\n" ++ usage)
  ⟨stop.exitCode, output, errors⟩

/-- the output shows colours, unless the command line switches them off -/
def Launch.coloured (launch : Launch) (options : Options) : Bool :=
  launch.environment.showsColours launch.terminal && !options.noColour

/-- the line that reports an error -/
def errorLine (coloured : Bool) (message : String) : String :=
  "\n" ++ (if coloured then inColour "1;31" "Error" else "Error") ++ ": " ++ message ++ "\n"

/-- the settings with the choices of the command line -/
def override (options : Options) (settings : Settings) : Settings :=
  { settings with
    startVisible := settings.startVisible || options.visible
    colours := settings.colours && !options.noColour }

/-- the session of a program with these options and settings, or the reservation that cannot be made -/
def session (launch : Launch) (options : Options) (settings : Settings) : Except Reservation (Session Demo.host) :=
  match Console.ofSettings (override options settings) Demo.setup (.upTo .info) (launch.coloured options) with
  | .ok console => .ok (.start console Demo.World.start)
  | .error reservation => .error reservation

/-- the end of a program that panics on a reservation; its report is cut down to the text of the panic -/
def Finish.panicked : Finish :=
  ⟨101, "", "capacity overflow\n"⟩

/-- the options and the session of a program, or its end -/
def start (launch : Launch) : Except Finish (Options × Session Demo.host) :=
  match Options.ofArguments launch.arguments with
  | .error stop => .error (.ofStop stop)
  | .ok options =>
    match Settings.load launch.environment launch.files options.config with
    | .error e => .error ⟨1, "", errorLine (launch.coloured options) e.fullMessage⟩
    | .ok settings =>
      match session launch options settings with
      | .ok session => .ok (options, session)
      | .error _ => .error .panicked

/-- run the program; each frame takes the time given -/
def run (launch : Launch) (input : ByteArray) (seconds : Nat → Single) : Finish :=
  let source := ⟨seconds, Demo.World.counters launch.machine⟩
  match start launch with
  | .error finish => finish
  | .ok (options, session) =>
    if options.commands.isEmpty then
      match session.run source input with
      | (.ok (), session) => ⟨0, Piece.join session.output, ""⟩
      | (.error e, session) =>
        ⟨1, Piece.join session.output, errorLine (launch.coloured options) e.message⟩
    else ⟨0, Piece.join (session.runLines source options.commands).output, ""⟩

end Program

end HostConsole
