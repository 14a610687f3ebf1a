/-
Lines of an input. A line ends at a newline or at the end of the input; the newline is left out, and so is one
carriage return right before it. A line whose bytes are no text is an error of its own.
-/
import HostConsole.Files.Tree

namespace HostConsole.Input

/-- the byte at the end of a line -/
def newline : UInt8 := 10

/-- the byte that may stand before the end of a line -/
def carriageReturn : UInt8 := 13

/-- a line without the carriage return at its end; the bytes come last first -/
def dropReturn : List UInt8 → List UInt8
  | [] => []
  | b :: rest => if b = carriageReturn then rest else b :: rest

/-- the bytes of the lines, those of the current line being given last first -/
def splitFrom (line : List UInt8) : List UInt8 → List (List UInt8)
  | [] => if line.isEmpty then [] else [line.reverse]
  | b :: rest =>
    if b = newline then (dropReturn line).reverse :: splitFrom [] rest else splitFrom (b :: line) rest

/-- the text of a line -/
def decode (line : List UInt8) : Except FileError String :=
  match String.fromUTF8? ⟨line.toArray⟩ with
  | some text => .ok text
  | none => .error .notText

/-- the lines of an input -/
def lines (input : ByteArray) : List (Except FileError String) :=
  (splitFrom [] input.data.toList).map decode

end HostConsole.Input
