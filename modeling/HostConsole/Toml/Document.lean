/-
TOML documents. A document is the table that its statements build in order: a header opens a table, and keys go to
the table opened last. `ofText` fails for a text that is no document, because it is malformed or because it says
something twice.

For each name at the top the document also keeps where it stands in the text, for diagnostics; a byte order mark in
front is part of the text there. A diagnostic shows the line and column, the line itself, and a row of carets below the
stretch in question.
-/
import HostConsole.Toml.Statement

namespace HostConsole.Toml

/-- where a name at the top stands, and its value -/
structure Place where
  key : Span
  value : Span
  deriving DecidableEq

/-- a document: its entries at the top, in order of their first mention, and their places -/
structure Document where
  entries : Entries
  places : List (String × Place)

namespace Document

/-- a document being built, and the path of the table opened last -/
structure Partial where
  document : Document
  opened : List String

/-- note where a name stands unless that is known; `anew` puts the new place over a known one -/
def notePlace (document : Document) (key : String) (place : Place) (anew : Bool) : Document :=
  if !anew && (document.places.lookup key).isSome then document
  else { document with places := (key, place) :: document.places }

/-- the place of the name at the top that a statement speaks of, if it speaks of one: keys do so only before the
first header. A value that is only begun stands where the name does. -/
def placeOf? (opened : List String) : Statement → Option Place
  | .header path _ place whole | .nextHeader path _ place whole =>
    some ⟨place, if path.isEmpty then whole else place⟩
  | .assign path _ place _ valuePlace =>
    if opened.isEmpty then some ⟨place, if path.isEmpty then valuePlace else place⟩ else none

/-- the statement is the header of a table at the top: longer headers may have spoken of the table before, but this
is where it stands -/
def isOwnHeader : Statement → Bool
  | .header path .. => path.isEmpty
  | _ => false

/-- carry out one statement -/
def extend? (building : Partial) (statement : Statement) : Option Partial := do
  let entries := building.document.entries
  let (entries, opened) ←
    match statement with
    | .header path key .. =>
      (changeOpened? (fun _ => openTable? key) path entries).map (·, path ++ [key])
    | .nextHeader path key .. =>
      (changeOpened? (fun _ => openNext? key) path entries).map (·, path ++ [key])
    | .assign path key _ value _ =>
      (changeOpened? (assign? path key value) building.opened entries).map (·, building.opened)
  let document := { building.document with entries }
  match placeOf? building.opened statement with
  | some place => some ⟨notePlace document statement.topKey place (isOwnHeader statement), opened⟩
  | none => some ⟨document, opened⟩

/-- the document of statements -/
def ofStatements? (statements : List Statement) : Option Document :=
  (statements.foldlM extend? ⟨⟨[], []⟩, []⟩).map (·.document)

/-- the text without a byte order mark in front -/
def withoutMark : List Char → List Char
  | '\uFEFF' :: rest => rest
  | s => s

/-- the document of a text -/
def ofText (text : String) : Except ReadError Document := do
  let s := text.toList
  let statements ← statements s.length (s.length + 1) (withoutMark s)
  ReadError.require (ofStatements? statements)

/-- the text is a document in which somewhere is an integer that is void or beyond a signed word of 64 bits, or a float
beyond doubles -/
def textHasWide (text : String) : Bool :=
  match ofText text with
  | .ok document => hasWideEntry document.entries
  | .error _ => false

end Document

/-! ## Diagnostics -/

/-- how many bytes a character takes -/
def byteCount (s : List Char) : Nat :=
  s.foldl (fun n c => n + c.utf8Size) 0

/-- the diagnostic for a stretch of a document -/
def excerpt (text : String) (place : Span) (message : String) : String :=
  let s := text.toList
  let before := s.take place.start
  let column := (before.reverse.takeWhile (· != '\n')).length
  let content := (s.drop (place.start - column)).takeWhile (· != '\n')
  let line := toString (before.count '\n' + 1)
  let carets := min (byteCount ((s.take place.stop).drop place.start)) (byteCount content - column)
  let gutter := "".pushn ' ' (line.length + 1) ++ "|"
  "TOML parse error at line " ++ line ++ ", column " ++ toString (column + 1) ++ "\n" ++
    gutter ++ "\n" ++
    line ++ " | " ++ String.ofList content ++ "\n" ++
    gutter ++ "".pushn ' ' (column + 1) ++ "".pushn '^' (max 1 carets) ++ "\n" ++
    message ++ "\n"

end HostConsole.Toml
