/-
Unquoted scalars of TOML: booleans, integers in four bases, floats, and dates and times. A scalar is one run of
words with blanks between them, up to the next separator, and the run as a whole decides what it is. An underscore may
stand between two digits.

Integers are read in two stages. A run that has the outline of an integer is one, but its characters need not give a
number: `0x` has no digits, `1_F` has a digit of another base, and a tab may stand in what follows `1_0`. Such an
integer is void.
-/
import HostConsole.Decimal.Read
import HostConsole.Toml.Quoted
import HostConsole.Toml.Value

namespace HostConsole.Toml

/-! ## Digits -/

/-- a digit of some base -/
def isAnyDigit (c : Char) : Bool :=
  (hexValue? c).isSome

/-- the text without its underscores, each of which has to stand between two digits of a class -/
def joined? (isDigit : Char → Bool) : List Char → Option (List Char)
  | [] => some []
  | '_' :: _ => none
  | c :: '_' :: rest => if isDigit c && rest.head?.any isDigit then (joined? isDigit rest).map (c :: ·) else none
  | c :: rest => (joined? isDigit rest).map (c :: ·)

/-- digits of a class, at least one, with single underscores between them: the digits alone -/
def digits? (isDigit : Char → Bool) (s : List Char) : Option (List Char) :=
  (joined? isDigit s).filter fun digits => !digits.isEmpty && digits.all isDigit

/-- the digits start with a zero and are more than that zero -/
def hasLeadingZero (digits : List Char) : Bool :=
  digits.head? = some '0' && digits.length != 1

/-! ## Numbers -/

/-- an integer in a base, from what follows the prefix; without digits it is void -/
def basedInteger? (base : Nat) (s : List Char) : Option Value := do
  let isDigit (c : Char) := (hexValue? c).any (· < base)
  let digits ← joined? isDigit s
  if digits.isEmpty then some .voidInteger
  else if digits.all isDigit then some (.integer (digits.foldl (fun n c => base * n + (hexValue? c).getD 0) 0))
  else none

/-- a decimal integer, from what follows the sign; with anything else than decimal digits it is void -/
def decimalInteger? (negative : Bool) (s : List Char) : Option Value := do
  if s.isEmpty || hasLeadingZero s then none
  else
    let digits ← joined? isAnyDigit s
    if digits.all Char.isDigit then
      let value := Decimal.ofDigits digits
      some (.integer (if negative then -(value : Int) else value))
    else some .voidInteger

/-- a decimal whose parts have digits, from what follows the sign -/
def decimalFloat? (negative : Bool) (s : List Char) : Option Value := do
  let isPoint (c : Char) := c == '.'
  let isExponent (c : Char) := c == 'e' || c == 'E'
  let (mantissa, exponent) := s.span (!isExponent ·)
  let (whole, fraction) := mantissa.span (!isPoint ·)
  let whole ← (digits? Char.isDigit whole).filter (!hasLeadingZero ·)
  let fraction ← if fraction.isEmpty then some [] else digits? Char.isDigit fraction.tail
  let (down, power) := Decimal.takeSign exponent.tail
  let power ← if exponent.isEmpty then some [] else digits? Char.isDigit power
  let power : Int := if down then -(Decimal.ofDigits power : Int) else Decimal.ofDigits power
  let x := Decimal.toBinary .double negative ⟨Decimal.ofDigits (whole ++ fraction), power - fraction.length⟩
  some (if x.isFinite then .float x else .hugeFloat)

/-- a decimal integer or a float. What follows the first digits tells them apart: a float has a point or an exponent
there, an integer nothing or an underscore. Neither has a space. -/
def decimalNumber? (run : List Char) : Option Value :=
  let (negative, body) := Decimal.takeSign run
  let rest := body.dropWhile Char.isDigit
  if rest.any (· == ' ') then none
  else if rest.any fun c => c == '.' || c == 'e' || c == 'E' then decimalFloat? negative body
  else if rest.isEmpty || rest.head? = some '_' then decimalInteger? negative body
  else none

/-- a float that is no decimal -/
def symbolicFloat? (run : List Char) : Option Value :=
  match Decimal.takeSign run with
  | (negative, ['i', 'n', 'f']) => some (.float (Binary.infinite negative))
  | (_, ['n', 'a', 'n']) => some (.float .nan)
  | _ => none

/-- a number -/
def number? : List Char → Option Value
  | '0' :: 'x' :: rest => basedInteger? 16 rest
  | '0' :: 'o' :: rest => basedInteger? 8 rest
  | '0' :: 'b' :: rest => basedInteger? 2 rest
  | run => (symbolicFloat? run).or (decimalNumber? run)

/-! ## Dates and times -/

/-- exactly so many decimal digits: their value and what follows -/
def field? (count : Nat) (s : List Char) : Option (Nat × List Char) :=
  let digits := s.take count
  if digits.length = count && digits.all Char.isDigit then some (Decimal.ofDigits digits, s.drop count) else none

/-- what follows one given character -/
def expect? (c : Char) : List Char → Option (List Char)
  | d :: rest => if d = c then some rest else none
  | [] => none

/-- the days of a month -/
def daysOf (year month : Nat) : Nat :=
  if month = 2 then
    if year % 4 = 0 && (year % 100 != 0 || year % 400 = 0) then 29 else 28
  else if month = 4 || month = 6 || month = 9 || month = 11 then 30
  else 31

/-- what follows a date -/
def date? (s : List Char) : Option (List Char) := do
  let (year, s) ← field? 4 s
  let (month, s) ← field? 2 (← expect? '-' s)
  let (day, s) ← field? 2 (← expect? '-' s)
  if 1 ≤ month && month ≤ 12 && 1 ≤ day && day ≤ daysOf year month then some s else none

/-- what follows the fraction of a second, if there is one -/
def fraction? : List Char → Option (List Char)
  | '.' :: rest =>
    if rest.head?.any Char.isDigit then some (rest.dropWhile Char.isDigit) else none
  | s => some s

/-- what follows a time; the seconds may be left out -/
def time? (s : List Char) : Option (List Char) := do
  let (hour, s) ← field? 2 s
  let (minute, s) ← field? 2 (← expect? ':' s)
  if 23 < hour || 59 < minute then none
  else
    match s with
    | ':' :: rest => do
      let (second, s) ← field? 2 rest
      if 60 < second then none else fraction? s
    | _ => some s

/-- an offset from universal time, or none -/
def isOffset : List Char → Bool
  | [] => true
  | [c] => c == 'Z' || c == 'z'
  | sign :: rest =>
    (sign == '+' || sign == '-') &&
      match field? 2 rest with
      | some (hour, ':' :: rest) =>
        match field? 2 rest with
        | some (minute, []) => hour ≤ 23 && minute ≤ 59
        | _ => false
      | _ => false

/-- what separates a date from a time -/
def isTimeMark (c : Char) : Bool :=
  c == 'T' || c == 't' || c == ' '

/-- a date, a time, or a date with a time and perhaps an offset -/
def isDatetime (s : List Char) : Bool :=
  match date? s with
  | some [] => true
  | some (mark :: rest) => isTimeMark mark && (time? rest).any isOffset
  | none => time? s == some []

/-! ## Scalars -/

/-- what ends a word of an unquoted scalar -/
def isSeparator (c : Char) : Bool :=
  isSpace c || ['\n', '\r', '#', '=', ',', '[', ']', '{', '}'].contains c

/-- the text goes on with a word: neither a separator nor a quote comes next -/
def beginsWord (s : List Char) : Bool :=
  s.head?.any fun c => !isSeparator c && c != '"' && c != '\''

/-- the run of a scalar and what follows; spaces and tabs belong to the run where another word follows them -/
def scalarRun : List Char → List Char × List Char
  | [] => ([], [])
  | c :: rest =>
    if !isSeparator c || (isSpace c && beginsWord (dropSpaces rest)) then
      let (run, rest) := scalarRun rest
      (c :: run, rest)
    else ([], c :: rest)

/-- the value of a run; digits with a dash or a colon behind them begin a date or a time -/
def scalar? (run : List Char) : Option Value :=
  let rest := run.dropWhile Char.isDigit
  if run = ['t', 'r', 'u', 'e'] then some (.boolean true)
  else if run = ['f', 'a', 'l', 's', 'e'] then some (.boolean false)
  else if rest.length != run.length && rest.head?.any (fun c => c == '-' || c == ':') then
    if isDatetime run then some .datetime else none
  else number? run

end HostConsole.Toml
