/-
Log entries: a severity and a message. Warnings and errors are shown with a tag in front, yellow or red where the
output shows colours.
-/
namespace HostConsole

/-- how serious an entry is -/
inductive Severity where
  | info
  | warning
  | error
  deriving DecidableEq, Repr

/-- one line of the log; the message may hold several lines of text -/
structure Entry where
  severity : Severity
  message : String
  deriving DecidableEq, Repr

namespace Severity

/-- the tag in front of a message, with its colour; plain messages have none -/
def tag? : Severity → Option (String × Nat)
  | info => none
  | warning => some ("[Warning]", 33)
  | error => some ("[Error]", 31)

end Severity

/-- text in a terminal colour -/
def inColour (code : String) (text : String) : String :=
  "\x1b[" ++ code ++ "m" ++ text ++ "\x1b[0m"

/-- the entry as text -/
def Entry.render (coloured : Bool) (entry : Entry) : String :=
  match entry.severity.tag? with
  | none => entry.message
  | some (tag, code) => (if coloured then inColour (toString code) tag else tag) ++ " " ++ entry.message

end HostConsole
