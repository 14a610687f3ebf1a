/-
What stands between the parts of a TOML document: spaces and tabs, newlines, and comments. A newline is a line feed,
alone or after a carriage return; a comment holds no control character except tabs. Each function takes the rest of
the document and gives what follows.
-/
namespace HostConsole.Toml

/-- a control character that may not stand by itself -/
def isControl (c : Char) : Bool :=
  (c.toNat < 0x20 && c != '\t') || c.toNat == 0x7F

/-- a space or a tab -/
def isSpace (c : Char) : Bool :=
  c == ' ' || c == '\t'

/-- without the spaces and tabs in front -/
def dropSpaces (s : List Char) : List Char :=
  s.dropWhile isSpace

/-- what follows a newline -/
def newline? : List Char → Option (List Char)
  | '\n' :: rest => some rest
  | '\r' :: '\n' :: rest => some rest
  | _ => none

/-- what follows the body of a comment: a newline or nothing -/
def comment? : List Char → Option (List Char)
  | [] => some []
  | c :: rest =>
    if (newline? (c :: rest)).isSome then some (c :: rest)
    else if isControl c then none
    else comment? rest

/-- what follows an optional comment -/
def optionalComment? : List Char → Option (List Char)
  | '#' :: rest => comment? rest
  | s => some s

/-- what follows the end of a line: spaces, an optional comment, and a newline unless the document ends -/
def lineEnd? (s : List Char) : Option (List Char) := do
  match ← optionalComment? (dropSpaces s) with
  | [] => some []
  | s => newline? s

/-- what follows any blanks: spaces, newlines and comments, as many as `fuel` allows -/
def dropBlanks? : Nat → List Char → Option (List Char)
  | 0, s => some s
  | fuel + 1, s =>
    match dropSpaces s with
    | '#' :: rest => do dropBlanks? fuel (← comment? rest)
    | s =>
      match newline? s with
      | some rest => dropBlanks? fuel rest
      | none => some s

end HostConsole.Toml
