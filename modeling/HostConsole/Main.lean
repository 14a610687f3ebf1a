/-
The command line program. It reads the environment, the settings file and the input, measures the time between lines,
and writes what the session prints as soon as it is printed.
-/
import HostConsole.Program

namespace HostConsole.Program

/-- the variables in a block of bytes, each ended by a zero byte -/
def environmentOfBlock (block : String) : Environment :=
  ⟨(block.splitOn "\x00").filterMap fun item =>
    match item.splitOn "=" with
    | name :: value@(_ :: _) => some (name, "=".intercalate value)
    | _ => none⟩

/-- why a file gives no text, from what the system says -/
def fileErrorOf : IO.Error → FileError
  | .inappropriateType _ _ details =>
    if details.toLower = "not a directory" then .notDirectory else .isDirectory
  | .permissionDenied .. => .denied
  | .invalidArgument .. => .nameTooLong
  | _ => .notFound

/-- what can be read at a path -/
def readFile (path : String) : IO (Except FileError String) := do
  try
    match String.fromUTF8? (← IO.FS.readBinFile path) with
    | some text => return .ok text
    | none => return .error .notText
  catch e => return .error (fileErrorOf e)

/-- the files the program may want to read -/
def filesFor (environment : Environment) (given : Option String) : IO Files := do
  match Settings.file? environment given with
  | .ok (some path) =>
    let result ← readFile path
    return ⟨fun _ => result, fun _ => result matches .ok _ | .error .notText | .error .denied⟩
  | _ => return ⟨fun _ => .error .notFound, fun _ => false⟩

/-- one line of the input with its end, empty at the end of the input -/
partial def readLine (input : IO.FS.Stream) (line : ByteArray) : IO ByteArray := do
  let next ← input.read 1
  if next.isEmpty then return line
  let line := line ++ next
  if next.data.contains Input.newline then return line else readLine input line

/-- write what a session printed -/
def writeOut (session : Session Demo.host) : IO (Session Demo.host) := do
  let output ← IO.getStdout
  output.putStr (Piece.join session.output)
  output.flush
  return { session with output := [] }

/-- a time in seconds, from nanoseconds -/
def secondsOf {F : Format} (nanoseconds : Nat) : Binary F :=
  Binary.ofRatio false (nanoseconds * F.one) 1000000000

/-- handle one line in the time that has passed -/
def handleNow (machine : Machine) (started last : Nat) (line : String) (session : Session Demo.host) :
    IO (Control × Session Demo.host × Nat) := do
  let now ← IO.monoNanosNow
  let world : Demo.World := { session.world with now := secondsOf (now - started) }
  let source : Source Demo.host := ⟨fun _ => secondsOf (now - last), Demo.World.counters machine⟩
  let (control, session) := { session with world }.handle source line
  return (control, ← writeOut session, now)

/-- handle the lines of the command line -/
def scripted (machine : Machine) (started : Nat) (lines : List String) (session : Session Demo.host) : IO UInt32 := do
  let mut session ← writeOut session.flush
  let mut last := started
  for line in lines do
    let (control, next, now) ← handleNow machine started last line session
    session := next
    last := now
    if control = .quit then break
  return 0

/-- handle the lines of the input with a prompt before each -/
partial def interactive (machine : Machine) (coloured : Bool) (started last : Nat) (session : Session Demo.host) :
    IO UInt32 := do
  match Input.lines (← readLine (← IO.getStdin) .empty) with
  | .ok line :: _ =>
    let (control, session, now) ← handleNow machine started last line session
    if control = .quit then return 0
    interactive machine coloured started now (← writeOut (session.write [.prompt]))
  | .error e :: _ =>
    (← IO.getStderr).putStr (errorLine coloured e.message)
    return 1
  | [] => return 0

/-- write what is left of a program that has ended -/
def finish (result : Finish) : IO UInt32 := do
  (← IO.getStdout).putStr result.output
  (← IO.getStderr).putStr result.errors
  return result.exitCode.toUInt32

end HostConsole.Program

open HostConsole in
/-- run the program -/
def main (arguments : List String) : IO UInt32 := do
  let block ← IO.FS.readBinFile "/proc/self/environ"
  let environment := Program.environmentOfBlock ((String.fromUTF8? block).getD "")
  let given := match Options.ofArguments arguments with
    | .ok options => options.config
    | .error _ => none
  let files ← Program.filesFor environment given
  let machine : Machine := ⟨"unknown", 1, none, "N/A", "unknown"⟩
  let launch : Program.Launch := ⟨arguments, environment, files, ← (← IO.getStdout).isTty, machine⟩
  let started ← IO.monoNanosNow
  match Program.start launch with
  | .error result => Program.finish result
  | .ok (options, session) =>
    if options.commands.isEmpty then
      let session ← Program.writeOut (session.flush.write [.prompt])
      Program.interactive machine (launch.coloured options) started started session
    else Program.scripted machine started options.commands session
