/-
Arguments as a handler sees them: values in order, read by index and type. Integers also read as floats.

An index is a word of 64 bits, counted from zero; diagnostics count from one, in words of 64 bits too. Arithmetic on
words is taken to be checked for overflow: a sum that no word holds breaks the handler off. So the last index has no
place in diagnostics, and a failure to read it cannot be reported. Were sums not checked, they would wrap around, and
the last index would be reported as the place 0.
-/
import HostConsole.Value.Basic

namespace HostConsole

/-- the values handed to a handler -/
structure Arguments where
  values : List Value
  deriving DecidableEq

namespace Arguments

/-- why an argument cannot be read; `overflow` is a failure whose place is beyond a word -/
inductive AccessError where
  | missing (position : UInt64) (provided : Nat)
  | mismatch (position : UInt64) (found expected : ValueType)
  | overflow
  deriving DecidableEq

/-- the place of an index in diagnostics, if a word holds it -/
def position? (index : UInt64) : Option UInt64 :=
  if index.toNat + 1 < UInt64.size then some (index + 1) else none

/-- the failure at an index, from its place in diagnostics -/
def failure (index : UInt64) (cause : UInt64 → AccessError) : AccessError :=
  ((position? index).map cause).getD .overflow

/-- the text of a failed access -/
def AccessError.message : AccessError → String
  | missing position provided =>
    "Missing argument #" ++ toString position.toNat ++ " (" ++ toString provided ++ " provided)"
  | mismatch position found expected =>
    "Argument #" ++ toString position.toNat ++ " is " ++ found.name ++ ", not " ++ expected.name
  | overflow => "attempt to add with overflow"

/-- how many arguments there are -/
def size (arguments : Arguments) : Nat :=
  arguments.values.length

/-- the argument at an index -/
def get? (arguments : Arguments) (index : UInt64) : Option Value :=
  arguments.values[index.toNat]?

/-- the argument at an index, which has to be there -/
def get (arguments : Arguments) (index : UInt64) : Except AccessError Value :=
  match arguments.get? index with
  | some value => .ok value
  | none => .error (failure index (.missing · arguments.size))

/-- the integer at an index -/
def integer (arguments : Arguments) (index : UInt64) : Except AccessError Int64 := do
  match ← arguments.get index with
  | .integer n => .ok n
  | other => .error (failure index (.mismatch · other.type .integer))

/-- the float at an index; an integer is widened -/
def float (arguments : Arguments) (index : UInt64) : Except AccessError Double := do
  match ← arguments.get index with
  | .float x => .ok x
  | .integer n => .ok (Binary.ofInt n.toInt)
  | other => .error (failure index (.mismatch · other.type .float))

/-- the boolean at an index -/
def boolean (arguments : Arguments) (index : UInt64) : Except AccessError Bool := do
  match ← arguments.get index with
  | .boolean b => .ok b
  | other => .error (failure index (.mismatch · other.type .boolean))

/-- the text at an index -/
def text (arguments : Arguments) (index : UInt64) : Except AccessError String := do
  match ← arguments.get index with
  | .text s => .ok s
  | other => .error (failure index (.mismatch · other.type .text))

end Arguments

end HostConsole
