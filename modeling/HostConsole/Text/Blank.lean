/-
Blank characters and what is cut at them: trimming both ends of a text and splitting it into words. A class of the
Unicode standard is a list of closed ranges of code points, in ascending order. Blank is the `White_Space` property, so
U+0085, U+00A0, U+2028 and U+3000 are blank, and U+200B and U+FEFF are not.

`runs` keeps every character that is not blank, in order; a run is never empty and never holds a blank.
-/
namespace HostConsole.Text

/-- membership in a class given by closed ranges of code points -/
def within (ranges : List (Nat × Nat)) (c : Char) : Bool :=
  ranges.any fun range => range.1 ≤ c.toNat && c.toNat ≤ range.2

/-- the `White_Space` property -/
def blankRanges : List (Nat × Nat) :=
  [(0x9, 0xD), (0x20, 0x20), (0x85, 0x85), (0xA0, 0xA0), (0x1680, 0x1680), (0x2000, 0x200A),
   (0x2028, 0x2029), (0x202F, 0x202F), (0x205F, 0x205F), (0x3000, 0x3000)]

/-- a blank character -/
def isBlank (c : Char) : Bool :=
  within blankRanges c

/-! ## Trimming -/

/-- the text without the blanks at its end -/
def trimEndChars (s : List Char) : List Char :=
  (s.reverse.dropWhile isBlank).reverse

/-- the text without the blanks at both ends -/
def trimChars (s : List Char) : List Char :=
  trimEndChars (s.dropWhile isBlank)

/-- the text without the blanks at both ends -/
def trim (s : String) : String :=
  String.ofList (trimChars s.toList)

/-! ## Words -/

/-- put a character in front of the runs of what follows: it joins the first run when it touches it -/
def joinRun (c : Char) (rest : List Char) (found : List (List Char)) : List (List Char) :=
  match rest, found with
  | d :: _, run :: more => if isBlank d then [c] :: run :: more else (c :: run) :: more
  | _, _ => [c] :: found

/-- the maximal runs of characters that are not blank, in order -/
def runs : List Char → List (List Char)
  | [] => []
  | c :: rest => if isBlank c then runs rest else joinRun c rest (runs rest)

/-- the words of a text: its maximal runs of characters that are not blank -/
def words (s : String) : List String :=
  (runs s.toList).map String.ofList

end HostConsole.Text
