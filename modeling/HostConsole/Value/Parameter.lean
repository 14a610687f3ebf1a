/-
Declared parameters. A declaration is `name` or `name:tag`, with blanks allowed around both parts; the name starts
with an ASCII letter or an underscore and goes on with letters, digits and underscores; the tag is a run without
blanks and colons. Without a tag the parameter takes text.

`bind` reads the words of a line against the parameters in order and stops at the first word that does not read.
-/
import HostConsole.Value.Basic

namespace HostConsole

/-- a declared parameter -/
structure Parameter where
  name : String
  type : ValueType
  deriving DecidableEq

namespace Parameter

/-! ## Declarations -/

/-- why a declaration is refused -/
inductive DeclarationError where
  | unsupportedType (tag : String)
  | malformed (declaration : String)
  deriving DecidableEq

/-- the text of a refusal -/
def DeclarationError.message : DeclarationError → String
  | unsupportedType tag => "Unsupported parameter type '" ++ tag ++ "'"
  | malformed declaration =>
    "Invalid parameter declaration '" ++ declaration ++ "' (expected `name` or `name:type`)"

/-- a character that can start a name -/
def isNameStart (c : Char) : Bool :=
  c.isAlpha || c = '_'

/-- a character that can go on a name -/
def isNameChar (c : Char) : Bool :=
  c.isAlphanum || c = '_'

/-- a character that can stand in a tag -/
def isTagChar (c : Char) : Bool :=
  !Text.isBlank c && c != ':'

/-- the name of a declaration and its tag, if it has one -/
def split? (declaration : String) : Option (String × Option String) :=
  let body := declaration.toList.dropWhile Text.isBlank
  let name := body.takeWhile isNameChar
  if name.head?.any isNameStart then
    match (body.dropWhile isNameChar).dropWhile Text.isBlank with
    | [] => some (String.ofList name, none)
    | ':' :: rest =>
      let rest := rest.dropWhile Text.isBlank
      let tag := rest.takeWhile isTagChar
      if !tag.isEmpty && (rest.dropWhile isTagChar).all Text.isBlank then
        some (String.ofList name, some (String.ofList tag))
      else none
    | _ => none
  else none

/-- the type a tag names, or the tag that names none -/
def typeOfTag (tag : String) : Except DeclarationError ValueType :=
  match ValueType.ofTag? tag with
  | some type => .ok type
  | none => .error (.unsupportedType (Text.trim tag))

/-- the parameter a declaration declares -/
def ofDeclaration (declaration : String) : Except DeclarationError Parameter :=
  match split? declaration with
  | none => .error (.malformed declaration)
  | some (name, none) => .ok ⟨name, .text⟩
  | some (name, some tag) => (typeOfTag tag).map (⟨name, ·⟩)

/-! ## Reading words against parameters -/

/-- the first word that does not read: its place, counted from one, the word and the type expected there -/
structure BadArgument where
  position : Nat
  word : String
  expected : ValueType
  deriving DecidableEq

/-- the text of a failure to read -/
def BadArgument.message (bad : BadArgument) : String :=
  "Invalid argument #" ++ toString bad.position ++ ": '" ++ bad.word ++ "' (expected " ++ bad.expected.name ++ ")"

/-- read words against parameters, the first of them standing at the given position; the shorter list counts -/
def bindFrom (position : Nat) : List String → List Parameter → Except BadArgument (List Value)
  | word :: words, parameter :: parameters =>
    match parameter.type.read? word with
    | some value => (bindFrom (position + 1) words parameters).map (value :: ·)
    | none => .error ⟨position, word, parameter.type⟩
  | _, _ => .ok []

/-- read words against parameters -/
def bind (words : List String) (parameters : List Parameter) : Except BadArgument (List Value) :=
  bindFrom 1 words parameters

end Parameter

end HostConsole
