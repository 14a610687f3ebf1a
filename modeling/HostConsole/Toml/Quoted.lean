/-
Quoted strings of TOML: basic strings with escapes and literal strings without, each on one line or on several. Each
function takes what follows the opening quotes and gives the text and what follows the closing quotes.
-/
import HostConsole.Toml.Blank

namespace HostConsole.Toml

/-! ## Escapes -/

/-- the value of a digit in base sixteen -/
def hexValue? (c : Char) : Option Nat :=
  if c.isDigit then some (c.toNat - '0'.toNat)
  else if 'a' ≤ c && c ≤ 'f' then some (c.toNat - 'a'.toNat + 10)
  else if 'A' ≤ c && c ≤ 'F' then some (c.toNat - 'A'.toNat + 10)
  else none

/-- the value of so many digits in base sixteen -/
def hexDigits? : Nat → Nat → List Char → Option (Nat × List Char)
  | 0, value, s => some (value, s)
  | count + 1, value, c :: rest => do hexDigits? count (16 * value + (← hexValue? c)) rest
  | _ + 1, _, [] => none

/-- the character of a code point given by so many digits -/
def codePoint? (count : Nat) (s : List Char) : Option (Char × List Char) := do
  let (value, rest) ← hexDigits? count 0 s
  if value.isValidChar then some (Char.ofNat value, rest) else none

/-- the character of an escape, from what follows the backslash -/
def escape? : List Char → Option (Char × List Char)
  | 'b' :: rest => some ('\x08', rest)
  | 't' :: rest => some ('\t', rest)
  | 'n' :: rest => some ('\n', rest)
  | 'f' :: rest => some ('\x0c', rest)
  | 'r' :: rest => some ('\r', rest)
  | 'e' :: rest => some ('\x1b', rest)
  | '"' :: rest => some ('"', rest)
  | '\\' :: rest => some ('\\', rest)
  | 'x' :: rest => codePoint? 2 rest
  | 'u' :: rest => codePoint? 4 rest
  | 'U' :: rest => codePoint? 8 rest
  | _ => none

/-! ## Strings on one line -/

/-- a basic string; `read` holds the characters read, the newest first -/
def basic? : Nat → List Char → List Char → Option (String × List Char)
  | fuel + 1, read, '\\' :: rest => do
    let (c, rest) ← escape? rest
    basic? fuel (c :: read) rest
  | _ + 1, read, '"' :: rest => some (String.ofList read.reverse, rest)
  | fuel + 1, read, c :: rest => if isControl c then none else basic? fuel (c :: read) rest
  | _, _, _ => none

/-- a literal string; `read` holds the characters read, the newest first -/
def literal? : List Char → List Char → Option (String × List Char)
  | read, '\'' :: rest => some (String.ofList read.reverse, rest)
  | read, c :: rest => if isControl c then none else literal? (c :: read) rest
  | _, [] => none

/-! ## Strings on several lines -/

/-- without the newline right after the opening quotes -/
def dropFirstNewline (s : List Char) : List Char :=
  (newline? s).getD s

/-- the quotes in front, at most five: what the string still holds of them and whether it ends with them -/
def closing (quote : Char) (s : List Char) : List Char × Bool × List Char :=
  let count := min 5 (s.takeWhile (· == quote)).length
  if 3 ≤ count then (List.replicate (count - 3) quote, true, s.drop count)
  else (List.replicate count quote, false, s.drop count)

/-- what follows a backslash at the end of a line: all blanks and newlines up to the next text -/
def continued? (s : List Char) : Option (List Char) := do
  let rest ← newline? (dropSpaces s)
  dropAll rest.length rest
where
  dropAll : Nat → List Char → Option (List Char)
    | 0, s => some s
    | fuel + 1, s =>
      match newline? (dropSpaces s) with
      | some rest => dropAll fuel rest
      | none => some (dropSpaces s)

/-- a plain character or a newline of a string on several lines -/
def multilineChar? : List Char → Option (List Char × List Char)
  | '\r' :: '\n' :: rest => some (['\n', '\r'], rest)
  | '\n' :: rest => some (['\n'], rest)
  | c :: rest => if isControl c then none else some ([c], rest)
  | [] => none

/-- a string on several lines; `read` holds the characters read, the newest first -/
def multiline? (quote : Char) (escapes : Bool) : Nat → List Char → List Char → Option (String × List Char)
  | 0, _, _ => none
  | fuel + 1, read, s =>
    if s.head? = some quote then
      match closing quote s with
      | (quotes, true, rest) => some (String.ofList (quotes ++ read).reverse, rest)
      | (quotes, false, rest) => multiline? quote escapes fuel (quotes ++ read) rest
    else if escapes && s.head? = some '\\' then
      match continued? s.tail with
      | some rest => multiline? quote escapes fuel read rest
      | none => do
        let (c, rest) ← escape? s.tail
        multiline? quote escapes fuel (c :: read) rest
    else do
      let (chars, rest) ← multilineChar? s
      multiline? quote escapes fuel (chars ++ read) rest

/-- a string from its opening quotes on -/
def string? : List Char → Option (String × List Char)
  | '"' :: '"' :: '"' :: rest => multiline? '"' true (rest.length + 1) [] (dropFirstNewline rest)
  | '\'' :: '\'' :: '\'' :: rest => multiline? '\'' false (rest.length + 1) [] (dropFirstNewline rest)
  | '"' :: rest => basic? (rest.length + 1) [] rest
  | '\'' :: rest => literal? [] rest
  | _ => none

end HostConsole.Toml
