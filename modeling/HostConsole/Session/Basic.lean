/-
Sessions: a console driven line by line. Every line handled is one frame. The entries that were appended since the
last time are printed, and the overlay after them while it is shown.

Three words mean something to the session itself, in any ASCII case and with blanks around them: two that end it, and
one that shows or hides the overlay, as the activation key does. A registered command of such a name goes first.
-/
import HostConsole.Session.Input
import HostConsole.Session.Piece

namespace HostConsole

/-- what follows after a line -/
inductive Control where
  | proceed
  | quit
  deriving DecidableEq

/-- what a session reads from its host: how long each frame took, and the counters -/
structure Source (H : Host) where
  seconds : Nat → Single
  counters : H.World → Counters

/-- a session; `printed` is its cursor in the log, and `frames` says how many frames there were -/
structure Session (H : Host) where
  console : Console H
  world : H.World
  printed : Nat
  frames : Nat
  output : List Piece

namespace Session

variable {H : Host}

/-- a session in which nothing was printed yet -/
def start (console : Console H) (world : H.World) : Session H :=
  ⟨console, world, 0, 0, []⟩

/-! ## Words of the session -/

/-- the words that end a session -/
def quitWords : List String := ["quit", "exit"]

/-- the word that shows or hides the overlay -/
def toggleWord : String := "toggle"

/-- the word is one that ends the session -/
def isQuitWord (word : String) : Bool :=
  quitWords.any (Text.sameIgnoringAsciiCase word)

/-- the word shows or hides the overlay -/
def isToggleWord (console : Console H) (word : String) : Bool :=
  Text.sameIgnoringAsciiCase word toggleWord || console.isToggleKey word

/-! ## One line -/

/-- write pieces -/
def write (session : Session H) (pieces : List Piece) : Session H :=
  { session with output := session.output ++ pieces }

/-- print what was appended to the log, and the overlay if it is shown -/
def flush (session : Session H) : Session H :=
  let (entries, next) := session.console.journal.tail session.printed
  let pieces := entries.map (Piece.entry · session.console.coloured)
  { session with printed := next }.write (pieces ++ session.console.overlay)

/-- submit a line to the console -/
def submit (session : Session H) (line : String) : Session H :=
  let (_, console, world) := session.console.submit line session.world
  { session with console, world }

/-- show or hide the overlay and say so -/
def toggle (session : Session H) : Session H :=
  let console := session.console.toggle
  { session with console }.write [.visibility console.visible]

/-- one frame -/
def frame (source : Source H) (session : Session H) : Session H :=
  { session with
    console := session.console.update (source.seconds session.frames) fun _ => source.counters session.world
    frames := session.frames + 1 }

/-- handle one line -/
def handle (source : Source H) (line : String) (session : Session H) : Control × Session H :=
  let word := Text.trim line
  if session.console.catalog.contains word then (.proceed, ((session.submit line).frame source).flush)
  else if isQuitWord word then (.quit, session)
  else if isToggleWord session.console word then (.proceed, (session.toggle.frame source).flush)
  else (.proceed, ((session.submit line).frame source).flush)

/-! ## Many lines -/

/-- handle lines up to the first that ends the session -/
def handleAll (source : Source H) : List String → Session H → Session H
  | [], session => session
  | line :: rest, session =>
    match session.handle source line with
    | (.proceed, session) => handleAll source rest session
    | (.quit, session) => session

/-- run lines without a prompt -/
def runLines (source : Source H) (lines : List String) (session : Session H) : Session H :=
  handleAll source lines session.flush

/-- handle lines of an input with a prompt after each, up to the first that ends the session or cannot be read -/
def promptAll (source : Source H) : List (Except FileError String) → Session H → Except FileError Unit × Session H
  | [], session => (.ok (), session)
  | .error e :: _, session => (.error e, session)
  | .ok line :: rest, session =>
    match session.handle source line with
    | (.proceed, session) => promptAll source rest (session.write [.prompt])
    | (.quit, session) => (.ok (), session)

/-- run an input with a prompt before each line -/
def run (source : Source H) (input : ByteArray) (session : Session H) : Except FileError Unit × Session H :=
  promptAll source (Input.lines input) (session.flush.write [.prompt])

end Session

end HostConsole
