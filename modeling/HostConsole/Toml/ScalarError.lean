/-
What is wrong with an unquoted scalar, and where. A run that begins like a number, a boolean or a symbolic float is
measured against that form, and the first part that breaks it is named; any other run is a string without its quotes.
Numbers in a base, underscores and dates are not diagnosed.
-/
import HostConsole.Toml.Scalar

namespace HostConsole.Toml

/-- a stretch of a text, in characters from its start -/
structure Span where
  start : Nat
  stop : Nat
  deriving DecidableEq

/-- the parts of a float that have digits -/
inductive FloatPart where
  | mantissa
  | fraction
  | exponent
  deriving DecidableEq

/-- what is wrong with an unquoted scalar -/
inductive ScalarError where
  | unquoted
  | boolean (expected : String)
  | symbol (expected : String)
  | leadingZero
  | noDigits (part : FloatPart)
  | floatTail
  deriving DecidableEq

/-- the name of a part -/
def FloatPart.name : FloatPart → String
  | mantissa => "mantissa"
  | fraction => "fraction"
  | exponent => "exponent"

/-- the text of an error -/
def ScalarError.message : ScalarError → String
  | unquoted => "string values must be quoted, expected literal string"
  | boolean expected => "invalid boolean, expected `" ++ expected ++ "`"
  | symbol expected => "invalid float, expected `" ++ expected ++ "`"
  | leadingZero => "unexpected leading zero, expected nothing"
  | noDigits part => "invalid " ++ part.name ++ ", expected digits"
  | floatTail => "invalid float, expected nothing"

namespace ScalarError

/-- a digit, or what may stand between two -/
def isDigitOrMark (c : Char) : Bool :=
  c.isDigit || c == '_'

/-- the error of the digits in front of `s`, the end of a run of so many characters -/
def ofDigits? (total : Nat) (part : FloatPart) (s : List Char) : Option (ScalarError × Span) :=
  let start := total - s.length
  let count := (s.takeWhile isDigitOrMark).countP Char.isDigit
  if count = 0 then some (.noDigits part, ⟨start, start⟩)
  else if part = .mantissa && count != 1 && s.head? = some '0' then some (.leadingZero, ⟨start, start + 1⟩)
  else none

/-- the first error of a float, from what follows the sign in a run of so many characters -/
def ofFloat? (total : Nat) (s : List Char) : Option (ScalarError × Span) :=
  let afterDigits (s : List Char) := s.dropWhile isDigitOrMark
  let whole := afterDigits s
  let (fraction, rest) :=
    match whole with
    | '.' :: more => (ofDigits? total .fraction more, afterDigits more)
    | _ => (none, whole)
  let (exponent, rest) :=
    match rest with
    | c :: more =>
      if c == 'e' || c == 'E' then
        let digits := (Decimal.takeSign more).2
        (ofDigits? total .exponent digits, afterDigits digits)
      else (none, rest)
    | [] => (none, [])
  let tail := if rest.isEmpty then none else some (.floatTail, ⟨total - rest.length, total⟩)
  (ofDigits? total .mantissa s).or (fraction.or (exponent.or tail))

/-- the first error of a decimal number, from what follows the sign in a run of so many characters -/
def ofDecimal? (total : Nat) (s : List Char) : Option (ScalarError × Span) :=
  let rest := s.dropWhile Char.isDigit
  let start := total - s.length
  if rest.any (· == ' ') then some (.unquoted, ⟨0, total⟩)
  else if rest.any fun c => c == '.' || c == 'e' || c == 'E' then ofFloat? total s
  else if !rest.isEmpty && rest.head? != some '_' then some (.unquoted, ⟨0, total⟩)
  else if hasLeadingZero s then some (.leadingZero, ⟨start, start + 1⟩)
  else none

/-- digits with a dash or a colon behind them, or a zero with the letter of a base -/
def isUndiagnosed (s : List Char) : Bool :=
  (s.dropWhile Char.isDigit).head?.any (fun c => c == '-' || c == ':') ||
    match s with
    | '0' :: c :: _ => ['x', 'o', 'b', 'd'].contains c.toLower
    | _ => false

/-- the error of a run that is no scalar, and the stretch of the run in question -/
def ofRun? (run : List Char) : Option (ScalarError × Span) :=
  let total := run.length
  let body := (Decimal.takeSign run).2
  let signed := body.length != total
  let whole : Span := ⟨total - body.length, total⟩
  let word (error : ScalarError) : Option (ScalarError × Span) :=
    if run.any (· == ' ') then some (.unquoted, ⟨0, total⟩) else some (error, whole)
  match body with
  | [] => if signed then some (.unquoted, ⟨0, total⟩) else none
  | c :: _ =>
    if isDigitOrMark c then if isUndiagnosed body then none else ofDecimal? total body
    else if c == '.' then ofFloat? total body
    else if c == 'i' || c == 'I' then word (.symbol "inf")
    else if c == 'n' || c == 'N' then word (.symbol "nan")
    else if c == '+' || c == '-' then none
    else if signed then some (.unquoted, ⟨0, total⟩)
    else if c == 't' || c == 'T' then word (.boolean "true")
    else if c == 'f' || c == 'F' then word (.boolean "false")
    else some (.unquoted, ⟨0, total⟩)

end ScalarError

/-- why a text is no document: an unquoted scalar with the stretch in question, or anything else -/
inductive ReadError where
  | scalar (error : ScalarError) (place : Span)
  | other
  deriving DecidableEq

namespace ReadError

/-- a part that has to be there -/
def require {α : Type} : Option α → Except ReadError α
  | some a => .ok a
  | none => .error .other

/-- the error of a run that is no scalar; so many characters of the document come before it -/
def ofRun (start : Nat) (run : List Char) : ReadError :=
  match ScalarError.ofRun? run with
  | some (error, place) => .scalar error ⟨start + place.start, start + place.stop⟩
  | none => .other

end ReadError

end HostConsole.Toml
