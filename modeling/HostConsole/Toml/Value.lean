/-
Values of TOML documents. A table remembers how it was written, because that decides what may still be added to it.
-/
import HostConsole.Binary.Basic

namespace HostConsole.Toml

/-- how a table came to be: in braces, under a header of its own, by a dotted key, or only as part of the header of
a table inside it -/
inductive Origin where
  | braces
  | header
  | dotted
  | implied
  deriving DecidableEq

/-- a value of a document; a void integer is written as an integer but gives no number, and a huge float is beyond the
range of doubles -/
inductive Value where
  | string (s : String)
  | integer (n : Int)
  | voidInteger
  | float (x : Double)
  | hugeFloat
  | boolean (b : Bool)
  | datetime
  | array (items : List Value)
  | table (origin : Origin) (entries : List (String × Value))
  | tables (items : List Value)

/-- the integer is beyond a signed word of 64 bits -/
def isWide (n : Int) : Bool :=
  n < Int64.minValue.toInt || Int64.maxValue.toInt < n

mutual

/-- somewhere in the value is an integer that is void or beyond a signed word of 64 bits, or a float beyond doubles -/
def Value.hasWide : Value → Bool
  | .integer n => isWide n
  | .voidInteger | .hugeFloat => true
  | .array items | .tables items => hasWideItem items
  | .table _ entries => hasWideEntry entries
  | _ => false

/-- one of the values has such a number -/
def hasWideItem : List Value → Bool
  | [] => false
  | item :: rest => item.hasWide || hasWideItem rest

/-- one of the entries has such a number -/
def hasWideEntry : List (String × Value) → Bool
  | [] => false
  | (_, value) :: rest => value.hasWide || hasWideEntry rest

end

end HostConsole.Toml
