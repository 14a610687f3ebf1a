/-
Environment variables and paths. A path may name variables and the home directory; expanding it puts in their values.

- `$NAME` takes the longest run of letters, digits and underscores; a dollar sign before any other character stays,
  and two of them stand for one.
- `${NAME}` takes everything up to the next brace, and `${NAME:-text}` gives the text when the variable is not set;
  without a closing brace the characters stay.
- A tilde in front, alone or before a slash, stands for the home directory, but not when it came from a variable.

Values are not expanded again. A variable is looked up in the bindings written out, each a name, an equals sign and a
value, and what stands before some equals sign is its name.
-/
import HostConsole.Text.AlphanumericTable
import HostConsole.Text.Blank

namespace HostConsole

/-- the variables that are set -/
structure Environment where
  bindings : List (String × String)

namespace Environment

/-- what stands behind a name and an equals sign in a binding written out -/
def afterName? (name : List Char) (binding : String × String) : Option (List Char) :=
  let wanted := name ++ ['=']
  let written := binding.1.toList ++ '=' :: binding.2.toList
  if wanted.isPrefixOf written then some (written.drop wanted.length) else none

/-- the value of a variable; a name may run into the value of a shorter one, as `A=B` does where `A` is `B=C` -/
def find? (environment : Environment) (name : String) : Option String :=
  if name.isEmpty then none
  else (environment.bindings.findSome? (afterName? name.toList)).map String.ofList

/-- the home directory -/
def home? (environment : Environment) : Option String :=
  (environment.find? "HOME").filter (!·.isEmpty)

end Environment

namespace Path

/-- why a path cannot be expanded -/
inductive ExpansionError where
  | unset (path name : String)
  deriving DecidableEq

/-- the text of a failed expansion -/
def ExpansionError.message : ExpansionError → String
  | unset path name =>
    "Could not expand path '" ++ path ++ "': error looking key '" ++ name ++
      "' up: environment variable not found"

/-! ## Variables -/

/-- a character of a variable's name -/
def isNameChar (c : Char) : Bool :=
  c == '_' || Text.within Text.alphanumericRanges c

/-- the name in braces and the text to use when it is not set -/
def splitDefault (body : List Char) : List Char × Option (List Char) :=
  go [] body
where
  go (name : List Char) : List Char → List Char × Option (List Char)
    | ':' :: '-' :: rest => if name.isEmpty then (body, none) else (name.reverse, some rest)
    | c :: rest => go (c :: name) rest
    | [] => (body, none)

/-- one part of a path: characters that stay, or a variable with the text to use when it is not set -/
inductive Part where
  | plain (text : List Char)
  | named (name : List Char) (fallback : Option (List Char))
  deriving DecidableEq

/-- the part that a dollar sign begins, from what follows the sign -/
def dollarPart (s : List Char) : Part × List Char :=
  match s with
  | '\x7b' :: body =>
    if body.contains '\x7d' then
      let (inside, rest) := body.span (· != '\x7d')
      let (name, fallback) := splitDefault inside
      (.named name fallback, rest.tail)
    else (.plain ['$', '\x7b'], body)
  | '$' :: rest => (.plain ['$'], rest)
  | s =>
    let (name, rest) := s.span isNameChar
    if name.isEmpty then (.plain ['$'], s) else (.named name none, rest)

/-- the parts of a path; `fuel` bounds their number -/
def parts : Nat → List Char → List Part
  | 0, _ => []
  | _ + 1, [] => []
  | fuel + 1, '$' :: rest =>
    let (part, rest) := dollarPart rest
    part :: parts fuel rest
  | fuel + 1, c :: rest => .plain [c] :: parts fuel rest

/-- the text of a part, or the name of a variable that is not set -/
def Part.expand (environment : Environment) : Part → Except String (List Char)
  | plain text => .ok text
  | named name fallback =>
    match environment.find? (String.ofList name), fallback with
    | some value, _ => .ok value.toList
    | none, some text => .ok text
    | none, none => .error (String.ofList name)

/-- the path with the values of its variables -/
def expandVariables (environment : Environment) (path : String) : Except String (List Char) := do
  let s := path.toList
  return (← (parts (s.length + 1) s).mapM (·.expand environment)).flatten

/-! ## The home directory -/

/-- the path with the home directory in place of a tilde in front -/
def expandTilde (environment : Environment) (s : List Char) : List Char :=
  match s, environment.home? with
  | '~' :: rest, some home => if rest.isEmpty || rest.head? = some '/' then home.toList ++ rest else s
  | _, _ => s

/-- the path with variables and home directory filled in -/
def expand (environment : Environment) (path : String) : Except ExpansionError String :=
  match expandVariables environment path with
  | .error name => .error (.unset path name)
  | .ok s =>
    if path.toList.head? = some '~' then .ok (String.ofList (expandTilde environment s))
    else .ok (String.ofList s)

/-! ## Joining -/

/-- a path from the root -/
def isAbsolute (path : String) : Bool :=
  path.toList.head? = some '/'

/-- a path below another -/
def join (directory path : String) : String :=
  if isAbsolute path || directory.isEmpty then path
  else if directory.toList.getLast? = some '/' then directory ++ path
  else directory ++ "/" ++ path

end Path

end HostConsole
