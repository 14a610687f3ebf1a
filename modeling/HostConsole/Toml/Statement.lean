/-
Statements of a TOML document: headers of tables, headers of lists of tables, and keys with values. A statement ends
with its line. Arrays and tables in braces hold values to a depth of eighty; newlines and comments may stand between
their parts, on both sides of an equals sign too, and the last part may be followed by a comma. A key stands on one
line and has at most eighty parts.

Every reader takes the rest of a document of `total` characters, and `fuel` bounds how often it may go on; the length
of the rest is always enough.
-/
import HostConsole.Toml.ScalarError
import HostConsole.Toml.Table

namespace HostConsole.Toml

/-! ## Keys -/

/-- a character of a bare key -/
def isBareChar (c : Char) : Bool :=
  c.isAlphanum || c == '_' || c == '-'

/-- one part of a key -/
def simpleKey? : List Char → Option (String × List Char)
  | '"' :: rest => basic? (rest.length + 1) [] rest
  | '\'' :: rest => literal? [] rest
  | s =>
    let (run, rest) := s.span isBareChar
    if run.isEmpty then none else some (String.ofList run, rest)

/-- a key has at most so many parts -/
def maxParts : Nat := 80

/-- a key of at most so many parts: the parts before the last, and the last -/
def parts? : Nat → List Char → Option (List String × String × List Char)
  | 0, _ => none
  | count + 1, s => do
    let (part, rest) ← simpleKey? s
    match dropSpaces rest with
    | '.' :: more => do
      let (path, key, rest) ← parts? count (dropSpaces more)
      some (part :: path, key, rest)
    | _ => some ([], part, rest)

/-- a key: the parts before the last, and the last -/
def key? (s : List Char) : Option (List String × String × List Char) :=
  parts? maxParts s

/-! ## Values -/

/-- brackets and braces stand inside one another at most this deep -/
def maxNesting : Nat := 80

/-- the stretch between two rests of a document of the given length -/
def spanOf (total : Nat) (s rest : List Char) : Span :=
  ⟨total - s.length, total - rest.length⟩

/-- an unquoted scalar -/
def unquoted (total : Nat) (s : List Char) : Except ReadError (Value × List Char) :=
  let (run, rest) := scalarRun s
  match scalar? run with
  | some value => .ok (value, rest)
  | none => .error (.ofRun (total - s.length) run)

mutual

/-- a value in which brackets and braces may still go down so many levels -/
def value (total : Nat) : Nat → Nat → List Char → Except ReadError (Value × List Char)
  | 0, _, _ => .error .other
  | fuel + 1, levels, s =>
    match s, levels with
    | '[' :: rest, level + 1 => (items total fuel level rest).map fun (items, rest) => (.array items, rest)
    | '{' :: rest, level + 1 =>
      (fields total fuel level [] rest).map fun (entries, rest) => (.table .braces entries, rest)
    | '"' :: _, _ | '\'' :: _, _ => (ReadError.require (string? s)).map fun (text, rest) => (.string text, rest)
    | s, _ => unquoted total s

/-- the items of an array up to its closing bracket -/
def items (total : Nat) : Nat → Nat → List Char → Except ReadError (List Value × List Char)
  | 0, _, _ => .error .other
  | fuel + 1, levels, s => do
    match ← ReadError.require (dropBlanks? s.length s) with
    | ']' :: rest => .ok ([], rest)
    | s => do
      let (item, rest) ← value total fuel levels s
      match ← ReadError.require (dropBlanks? rest.length rest) with
      | ']' :: rest => .ok ([item], rest)
      | ',' :: rest => (items total fuel levels rest).map fun (items, rest) => (item :: items, rest)
      | _ => .error .other

/-- the entries of a table in braces up to its closing brace -/
def fields (total : Nat) : Nat → Nat → Entries → List Char → Except ReadError (Entries × List Char)
  | 0, _, _, _ => .error .other
  | fuel + 1, levels, entries, s => do
    match ← ReadError.require (dropBlanks? s.length s) with
    | '}' :: rest => .ok (entries, rest)
    | s => do
      let (path, key, rest) ← ReadError.require (key? s)
      let rest ← ReadError.require (do expect? '=' (← dropBlanks? rest.length rest))
      let rest ← ReadError.require (dropBlanks? rest.length rest)
      let (value, rest) ← value total fuel levels rest
      let entries ← ReadError.require (assign? path key value .braces entries)
      match ← ReadError.require (dropBlanks? rest.length rest) with
      | '}' :: rest => .ok (entries, rest)
      | ',' :: rest => fields total fuel levels entries rest
      | _ => .error .other

end

/-! ## Statements -/

/-- one statement: the parts of its key before the last, the last, and where the key's first part stands; then where
the whole header stands, or the value and where that stands -/
inductive Statement where
  | header (path : List String) (key : String) (place whole : Span)
  | nextHeader (path : List String) (key : String) (place whole : Span)
  | assign (path : List String) (key : String) (place : Span) (value : Value) (valuePlace : Span)

/-- the name at the top of the document that a statement speaks of -/
def Statement.topKey : Statement → String
  | header path key _ _ | nextHeader path key _ _ | assign path key _ _ _ => path.headD key

/-- a key and where its first part stands -/
def placedKey? (total : Nat) (s : List Char) : Option (List String × String × Span × List Char) := do
  let (_, first) ← simpleKey? s
  let (path, key, rest) ← key? s
  some (path, key, spanOf total s first, dropSpaces rest)

/-- a key with its value -/
def assignment (total : Nat) (s : List Char) : Except ReadError (Statement × List Char) := do
  let (path, key, place, rest) ← ReadError.require (placedKey? total s)
  let body := dropSpaces (← ReadError.require (expect? '=' rest))
  let (value, rest) ← value total (body.length + 1) maxNesting body
  .ok (.assign path key place value (spanOf total body rest), rest)

/-- a header -/
def header? (total : Nat) (s : List Char) : Option (Statement × List Char) :=
  match s with
  | '[' :: '[' :: inner => do
    let (path, key, place, rest) ← placedKey? total (dropSpaces inner)
    let rest ← expect? ']' (← expect? ']' rest)
    some (.nextHeader path key place (spanOf total s rest), rest)
  | '[' :: inner => do
    let (path, key, place, rest) ← placedKey? total (dropSpaces inner)
    let rest ← expect? ']' rest
    some (.header path key place (spanOf total s rest), rest)
  | _ => none

/-- a statement, not yet the end of its line -/
def statement (total : Nat) (s : List Char) : Except ReadError (Statement × List Char) :=
  if s.head? = some '[' then ReadError.require (header? total s) else assignment total s

/-- all statements of a document -/
def statements (total : Nat) : Nat → List Char → Except ReadError (List Statement)
  | 0, _ => .error .other
  | fuel + 1, s => do
    match ← ReadError.require (dropBlanks? s.length s) with
    | [] => .ok []
    | s => do
      let (first, rest) ← statement total s
      let rest ← ReadError.require (lineEnd? rest)
      .ok (first :: (← statements total fuel rest))

end HostConsole.Toml
