/-
Lowercase of the Unicode standard, for every character: the simple mappings, U+0130 (which becomes two characters),
and the capital sigma, which becomes the final form at the end of a word and the common form elsewhere.

A sigma ends a word when a cased letter comes before it and none after it; characters such as marks and apostrophes
are looked through on both sides.
-/
import HostConsole.Text.Blank
import HostConsole.Text.CaseTable

namespace HostConsole.Text

/-! ## Single characters -/

/-- the simple lowercase mapping -/
def simpleLower (c : Char) : Char :=
  match lowercaseRanges.find? (·.covers c.toNat) with
  | some range => Char.ofNat (c.toNat + range.offset).toNat
  | none => c

/-- lowercase of a character outside any word: U+0130 keeps its dot as a combining mark -/
def lowerChar (c : Char) : List Char :=
  if c = '\u0130' then ['i', '\u0307'] else [simpleLower c]

/-- a letter that has case -/
def isCased (c : Char) : Bool :=
  within casedRanges c

/-- a character that the final-sigma rule looks through -/
def isCaseIgnorable (c : Char) : Bool :=
  within caseIgnorableRanges c

/-! ## Texts -/

/-- the first character that counts is a cased letter -/
def meetsCased (s : List Char) : Bool :=
  match s.dropWhile isCaseIgnorable with
  | c :: _ => isCased c
  | [] => false

/-- lowercase of a capital sigma between what comes before it, nearest first, and what comes after it -/
def lowerSigma (before after : List Char) : Char :=
  if meetsCased before && !meetsCased after then 'ς' else 'σ'

/-- lowercase of a text that follows `before`, nearest first -/
def lowerAfter (before : List Char) : List Char → List Char
  | [] => []
  | c :: rest =>
    (if c = 'Σ' then [lowerSigma before rest] else lowerChar c) ++ lowerAfter (c :: before) rest

/-- lowercase of a whole text -/
def lowerChars (s : List Char) : List Char :=
  lowerAfter [] s

/-- lowercase of a whole text -/
def lower (s : String) : String :=
  String.ofList (lowerChars s.toList)

/-- the form in which names are compared: trimmed and in lowercase -/
def foldName (s : String) : String :=
  lower (trim s)

/-! ## Equality up to ASCII case -/

/-- the two texts differ at most in the case of ASCII letters -/
def sameIgnoringAsciiCase (s t : String) : Bool :=
  s.toList.map Char.toLower == t.toList.map Char.toLower

end HostConsole.Text
