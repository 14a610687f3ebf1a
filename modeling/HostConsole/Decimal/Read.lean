/-
Reading numbers. A whole number is an optional sign and digits, within a signed word of 64 bits. A fraction is an
optional sign followed by `inf`, `infinity` or `nan` in any case, or by digits with at most one point (at least one
digit on either side of it) and an optional exponent; it is rounded to the nearest binary number.
-/
import HostConsole.Decimal.Basic

namespace HostConsole.Decimal

/-- an optional sign, and whether it was a minus -/
def takeSign : List Char → Bool × List Char
  | '-' :: rest => (true, rest)
  | '+' :: rest => (false, rest)
  | s => (false, s)

/-- the value of a run of decimal digits -/
def ofDigits (digits : List Char) : Nat :=
  digits.foldl (fun n c => 10 * n + (c.toNat - '0'.toNat)) 0

/-- digits and nothing else, at least one -/
def allDigits (s : List Char) : Bool :=
  !s.isEmpty && s.all Char.isDigit

/-- a whole number within a signed word of 64 bits -/
def readInt64? (s : String) : Option Int64 :=
  let (negative, digits) := takeSign s.toList
  if allDigits digits then
    let value : Int := if negative then -(ofDigits digits : Int) else ofDigits digits
    if Int64.minValue.toInt ≤ value && value ≤ Int64.maxValue.toInt then some (Int64.ofInt value) else none
  else none

/-- the exponent that follows the digits: nothing, or `e` with an optional sign and digits -/
def readExponent? : List Char → Option Int
  | [] => some 0
  | c :: rest =>
    let (negative, digits) := takeSign rest
    if (c = 'e' || c = 'E') && allDigits digits then
      some (if negative then -(ofDigits digits : Int) else ofDigits digits)
    else none

/-- a decimal without sign: digits with at most one point, and an optional exponent -/
def read? (s : List Char) : Option Decimal :=
  let whole := s.takeWhile Char.isDigit
  let rest := s.dropWhile Char.isDigit
  let (fraction, rest) :=
    match rest with
    | '.' :: rest => (rest.takeWhile Char.isDigit, rest.dropWhile Char.isDigit)
    | _ => ([], rest)
  if whole.isEmpty && fraction.isEmpty then none
  else (readExponent? rest).map fun exponent => ⟨ofDigits (whole ++ fraction), exponent - fraction.length⟩

/-- a binary number: a word for a special value in any case, or a decimal -/
def readBinary? (F : Format) (s : String) : Option (Binary F) :=
  let (negative, body) := takeSign s.toList
  let word := String.ofList (body.map Char.toLower)
  if word = "inf" || word = "infinity" then some (Binary.infinite negative)
  else if word = "nan" then some .nan
  else (read? body).map (toBinary F negative)

end HostConsole.Decimal
