/-
Settings in a TOML document. Every name at the top of the document has to be a setting, with a value of its type;
names are looked at in their own order, not in that of the document, and the first one that does not fit is reported.

Counts take integers from zero up to words of 64 bits; the interval takes integers and floats and is rounded to 32
bits. Larger numbers stand in a document as they are written and fit no setting.

A diagnostic shows a text between double quotes: quotes, backslashes and the common controls are escaped by a letter,
and every other character that would not show by itself is escaped by its code point.
-/
import HostConsole.Settings.Basic
import HostConsole.Text.Blank
import HostConsole.Text.PrintableTable
import HostConsole.Toml.Document

namespace HostConsole

/-! ## Quoted texts -/

namespace Text

/-- digits of a number in base sixteen, in lowercase -/
def hexDigits (n : Nat) : List Char :=
  Nat.toDigits 16 n

/-- the escape by code point -/
def codePointEscape (c : Char) : List Char :=
  "\\u\x7b".toList ++ hexDigits c.toNat ++ ['\x7d']

/-- one character inside the quotes -/
def quotedChar (c : Char) : List Char :=
  if c = '\x00' then ['\\', '0']
  else if c = '\t' then ['\\', 't']
  else if c = '\r' then ['\\', 'r']
  else if c = '\n' then ['\\', 'n']
  else if c = '"' then ['\\', '"']
  else if c = '\\' then ['\\', '\\']
  else if within joiningMarkRanges c || within unprintableRanges c then codePointEscape c
  else [c]

/-- the text between double quotes -/
def quoted (s : String) : String :=
  String.ofList ('"' :: s.toList.flatMap quotedChar ++ ['"'])

end Text

namespace Settings

/-! ## Misfits -/

/-- how a document does not fit -/
inductive Misfit where
  | unknownField (key : String)
  | wrongType (found expected : String)
  | wrongValue (n : Int)
  | hugeInteger
  | hugeFloat
  deriving DecidableEq

/-- the names of all settings -/
def fields : List String :=
  ["max_log_lines", "sample_interval_secs", "toggle_key", "graph_width", "graph_height", "start_visible", "colors"]

/-- the text of a misfit -/
def Misfit.message : Misfit → String
  | unknownField key =>
    "unknown field `" ++ key ++ "`, expected one of " ++ ", ".intercalate (fields.map fun field => "`" ++ field ++ "`")
  | wrongType found expected => "invalid type: " ++ found ++ ", expected " ++ expected
  | wrongValue n => "invalid value: integer `" ++ toString n ++ "`, expected usize"
  | hugeInteger => "integer number overflowed"
  | hugeFloat => "floating-point number overflowed"

/-- the text of a float, with a point if it is finite -/
def floatText (x : Double) : String :=
  let text := x.text
  if x.isFinite && !text.contains '.' then text ++ ".0" else text

/-- the integer fits a word of 64 bits, with or without a sign -/
def isWord (n : Int) : Bool :=
  Int64.minValue.toInt ≤ n && n < (UInt64.size : Int)

/-- what an integer is, in diagnostics: beyond 64 bits with the type of 128 bits that holds it, if one does -/
def describeInteger? (n : Int) : Option String :=
  let text := "integer `" ++ toString n ++ "`"
  if isWord n then some text
  else if -(Nat.pow 2 127 : Int) ≤ n && n < (Nat.pow 2 127 : Int) then some (text ++ " as i128")
  else if 0 ≤ n && n < (Nat.pow 2 128 : Int) then some (text ++ " as u128")
  else none

/-- the misfit of a value where something else is expected -/
def mismatch (expected : String) : Toml.Value → Misfit
  | .string s => .wrongType ("string " ++ Text.quoted s) expected
  | .integer n =>
    match describeInteger? n with
    | some found => .wrongType found expected
    | none => .hugeInteger
  | .float x => .wrongType ("floating point `" ++ floatText x ++ "`") expected
  | .voidInteger => .hugeInteger
  | .hugeFloat => .hugeFloat
  | .boolean b => .wrongType ("boolean `" ++ toString b ++ "`") expected
  | .array _ | .tables _ => .wrongType "sequence" expected
  | .datetime | .table .. => .wrongType "map" expected

/-- a count -/
def count : Toml.Value → Except Misfit Nat
  | .integer n =>
    if !isWord n then .error (mismatch "usize" (.integer n))
    else if 0 ≤ n then .ok n.toNat
    else .error (.wrongValue n)
  | value => .error (mismatch "usize" value)

/-- a number of 32 bits -/
def single : Toml.Value → Except Misfit Single
  | .integer n => if isWord n then .ok (Binary.ofInt n) else .error (mismatch "f32" (.integer n))
  | .float x => .ok (x.convert .single)
  | value => .error (mismatch "f32" value)

/-- a text -/
def text : Toml.Value → Except Misfit String
  | .string s => .ok s
  | value => .error (mismatch "a string" value)

/-- a yes or no -/
def flag : Toml.Value → Except Misfit Bool
  | .boolean b => .ok b
  | value => .error (mismatch "a boolean" value)

/-- set one setting by its name in documents -/
def set (settings : Settings) (key : String) (value : Toml.Value) : Except Misfit Settings :=
  match key with
  | "max_log_lines" => (count value).map ({ settings with maxLogLines := · })
  | "sample_interval_secs" => (single value).map ({ settings with sampleInterval := · })
  | "toggle_key" => (text value).map ({ settings with toggleKey := · })
  | "graph_width" => (count value).map ({ settings with graphWidth := · })
  | "graph_height" => (count value).map ({ settings with graphHeight := · })
  | "start_visible" => (flag value).map ({ settings with startVisible := · })
  | "colors" => (flag value).map ({ settings with colours := · })
  | key => .error (.unknownField key)

/-- the place of a misfit: the name if it is unknown, the value otherwise -/
def placeOf (document : Toml.Document) (key : String) (misfit : Misfit) : Toml.Span :=
  match document.places.lookup key, misfit with
  | some place, .unknownField _ => place.key
  | some place, _ => place.value
  | none, _ => ⟨0, 0⟩

/-- set settings one after the other, up to the first misfit -/
def setAll (document : Toml.Document) (settings : Settings) : Toml.Entries → Except (Misfit × Toml.Span) Settings
  | [] => .ok settings
  | (key, value) :: rest =>
    match settings.set key value with
    | .ok settings => setAll document settings rest
    | .error misfit => .error (misfit, placeOf document key misfit)

/-- the settings in a document -/
def ofDocument (document : Toml.Document) : Except (Misfit × Toml.Span) Settings :=
  setAll document {} (document.entries.mergeSort fun a b => a.1 ≤ b.1)

/-- why a text gives no settings -/
inductive TextError where
  | malformed (error : Toml.ReadError)
  | misfit (misfit : Misfit) (place : Toml.Span)
  | invalid (violation : Violation)
  deriving DecidableEq

/-- the settings in the text of a document, checked -/
def ofText (text : String) : Except TextError Settings :=
  match Toml.Document.ofText text with
  | .error error => .error (.malformed error)
  | .ok document =>
    match ofDocument document with
    | .error (misfit, place) => .error (.misfit misfit place)
    | .ok settings =>
      match settings.check with
      | some violation => .error (.invalid violation)
      | none => .ok settings

end Settings

end HostConsole
