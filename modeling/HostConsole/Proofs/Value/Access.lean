/-
Reading an argument as a type. Each type has the Lean type of what its values carry (`Carried`), and one of the four
readers gives it back (`readAs`). A value gives something to the reader of its own type, and an integer to that of
floats as well (`as?`).

Results: a value read from a word has the type it was read as (`type_of_read?`); what a reader does is decided by the
value at the index alone (`readAs_eq`); and the reader of the type of a value gives what the value carries: it neither
widens it nor fails (`readAs_of_get?`).
-/
import Mathlib.Tactic
import HostConsole.Value.Arguments

namespace HostConsole

/-- what values of a type carry -/
def ValueType.Carried : ValueType → Type
  | integer => Int64
  | float => Double
  | boolean => Bool
  | text => String

/-- the value of a type that carries this -/
def Value.carrying : (type : ValueType) → type.Carried → Value
  | .integer => Value.integer
  | .float => Value.float
  | .boolean => Value.boolean
  | .text => Value.text

/-- read the argument at an index as a type, with the reader of that type -/
def Arguments.readAs (arguments : Arguments) (index : UInt64) :
    (type : ValueType) → Except Arguments.AccessError type.Carried
  | .integer => arguments.integer index
  | .float => arguments.float index
  | .boolean => arguments.boolean index
  | .text => arguments.text index

/-- every value carries something of its type -/
theorem Value.exists_carrying (value : Value) : ∃ carried, value = Value.carrying value.type carried := by
  cases value with
  | integer n => exact ⟨n, rfl⟩
  | float x => exact ⟨x, rfl⟩
  | boolean b => exact ⟨b, rfl⟩
  | text s => exact ⟨s, rfl⟩

/-- a value read from a word has the type it was read as -/
theorem ValueType.type_of_read? {type : ValueType} {word : String} {value : Value}
    (h : type.read? word = some value) : value.type = type := by
  cases type with
  | integer =>
    obtain ⟨n, -, rfl⟩ := Option.map_eq_some_iff.1 h
    rfl
  | float =>
    obtain ⟨x, -, rfl⟩ := Option.map_eq_some_iff.1 h
    rfl
  | boolean =>
    simp only [read?] at h
    split_ifs at h <;> cases h <;> rfl
  | text =>
    cases h
    rfl

/-- what a value gives to the reader of a type: an integer is widened for that of floats -/
def Value.as? : Value → (type : ValueType) → Option type.Carried
  | integer n, .integer => some n
  | integer n, .float => some (Binary.ofInt n.toInt)
  | float x, .float => some x
  | boolean b, .boolean => some b
  | text s, .text => some s
  | _, _ => none

theorem Value.as?_carrying (type : ValueType) (carried : type.Carried) :
    (Value.carrying type carried).as? type = some carried := by
  cases type <;> rfl

/-- a value gives nothing to the reader of another type, but that an integer gives something to that of floats -/
theorem Value.as?_eq_none_iff {value : Value} {type : ValueType} :
    value.as? type = none ↔ value.type ≠ type ∧ ¬ (value.type = .integer ∧ type = .float) := by
  cases value <;> cases type <;> simp [as?, Value.type]

/-- what a reader does: it gives what the value at the index gives to it, or fails there -/
theorem Arguments.readAs_eq (arguments : Arguments) (index : UInt64) (type : ValueType) :
    arguments.readAs index type =
      match arguments.get? index with
      | none => .error (failure index (.missing · arguments.size))
      | some value =>
        match value.as? type with
        | some carried => .ok carried
        | none => .error (failure index (.mismatch · value.type type)) := by
  cases hget : arguments.get? index with
  | none => cases type <;> simp only [readAs, integer, float, boolean, text, get, hget] <;> rfl
  | some value =>
    cases type <;> simp only [readAs, integer, float, boolean, text, get, hget] <;> cases value <;> rfl

/-- the reader of the type of a value gives what the value carries -/
theorem Arguments.readAs_of_get? {arguments : Arguments} {index : UInt64} {type : ValueType} {carried : type.Carried}
    (h : arguments.get? index = some (Value.carrying type carried)) : arguments.readAs index type = .ok carried := by
  simp only [readAs_eq, h, Value.as?_carrying]

end HostConsole
