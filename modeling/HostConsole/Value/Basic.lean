/-
Values of console arguments and their types. Each type has the tags by which declarations name it (fifteen in all,
compared trimmed and in lowercase) and one name of its own, which is also one of its tags.

A value is read from one word of a line and written back as text; a text value is its word, unchanged.
-/
import HostConsole.Text.Lower
import HostConsole.Decimal.Read
import HostConsole.Decimal.Shortest

namespace HostConsole

/-- types of argument values -/
inductive ValueType where
  | integer
  | float
  | boolean
  | text
  deriving DecidableEq, Repr

/-- argument values -/
inductive Value where
  | integer (n : Int64)
  | float (x : Double)
  | boolean (b : Bool)
  | text (s : String)
  deriving DecidableEq

namespace ValueType

/-- the name of a type in diagnostics and help -/
def name : ValueType → String
  | integer => "int"
  | float => "float"
  | boolean => "bool"
  | text => "string"

/-- every tag with the type it names -/
def tags : List (String × ValueType) :=
  [("int", integer), ("integer", integer), ("i32", integer), ("i64", integer), ("long", integer),
   ("float", float), ("double", float), ("f32", float), ("f64", float), ("number", float),
   ("bool", boolean), ("boolean", boolean),
   ("string", text), ("str", text), ("text", text)]

/-- the type a tag names -/
def ofTag? (tag : String) : Option ValueType :=
  tags.lookup (Text.foldName tag)

/-- read one word as a value of the type -/
def read? : ValueType → String → Option Value
  | integer, word => (Decimal.readInt64? word).map .integer
  | float, word => (Decimal.readBinary? .double word).map .float
  | boolean, word =>
    let folded := Text.lower word
    if folded = "true" then some (.boolean true)
    else if folded = "false" then some (.boolean false)
    else none
  | text, word => some (.text word)

end ValueType

namespace Value

/-- the type of a value -/
def type : Value → ValueType
  | integer _ => .integer
  | float _ => .float
  | boolean _ => .boolean
  | text _ => .text

/-- the text of a value -/
def display : Value → String
  | integer n => toString n.toInt
  | float x => x.text
  | boolean b => if b then "true" else "false"
  | text s => s

end Value

end HostConsole
