/-
What a session writes, piece by piece: the prompt, log entries, notices, and the overlay with its telemetry and its
graph. Every piece but the prompt is a line of its own or several.
-/
import HostConsole.Console
import HostConsole.Graph.Basic

namespace HostConsole

/-- one piece of output -/
inductive Piece where
  | prompt
  | visibility (shown : Bool)
  | entry (entry : Entry) (coloured : Bool)
  | telemetry (text : String)
  | graph (text : String)
  deriving DecidableEq

namespace Piece

/-- the text of a piece -/
def text : Piece → String
  | prompt => "> "
  | visibility shown => "Console " ++ (if shown then "shown" else "hidden") ++ ".\n"
  | entry e coloured => e.render coloured ++ "\n"
  | telemetry text => text ++ "\n"
  | graph text => text ++ "\n"

/-- the text of pieces in a row -/
def join (pieces : List Piece) : String :=
  String.join (pieces.map text)

/-- the columns of the graph in text -/
def graphColumns : Nat := 60

/-- the rows of the graph in text -/
def graphRows : Nat := 6

end Piece

namespace Console

variable {H : Host}

/-- the graph in text, unless it is blank -/
def graphPieces (console : Console H) : List Piece :=
  let text := console.graph.plain Piece.graphColumns Piece.graphRows
  if (Text.trim text).isEmpty then [] else [.graph text]

/-- the overlay, if it is shown -/
def overlay (console : Console H) : List Piece :=
  if console.visible then (console.telemetryText?.map Piece.telemetry).toList ++ console.graphPieces else []

end Console

end HostConsole
