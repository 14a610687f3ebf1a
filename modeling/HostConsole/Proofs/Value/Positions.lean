/-
Reading at every index. Diagnostics count the places of arguments from one, in words of 64 bits like the indices, so the
place of an index is one more than the index for every index but the last (`failure_of_lt`, `failure_of_last`). Where a
value stands the place is always a word, since the number of values is one (`failure_of_found`). All of this is about
arithmetic that is checked for overflow, as the arguments take it to be.

Result: `reads_at_every_index`. A reader gives something exactly if there is a value at the index and the value gives
something to it; otherwise it fails with an error that tells the place. Only at the last index there is no such error:
no value stands there, and the failure breaks the handler off (`last_index_unreported`).
-/
import HostConsole.Demo.Host
import HostConsole.Proofs.Value.Access

namespace HostConsole.Arguments

variable {H : Host} {arguments : Arguments} {index : UInt64}

/-! ## Places -/

/-- before the last index the place is one more than the index -/
theorem failure_of_lt (h : index.toNat + 1 < UInt64.size) (cause : UInt64 → AccessError) :
    ∃ position : UInt64, position.toNat = index.toNat + 1 ∧ failure index cause = cause position := by
  refine ⟨index + 1, ?_, ?_⟩
  · rw [UInt64.toNat_add, UInt64.toNat_one]
    exact Nat.mod_eq_of_lt h
  · rw [failure, position?, if_pos h]
    rfl

/-- the last index has no place -/
theorem failure_of_last (h : index.toNat + 1 = UInt64.size) (cause : UInt64 → AccessError) :
    failure index cause = .overflow := by
  rw [failure, position?, if_neg (by omega)]
  rfl

/-- where a value stands, there is a place -/
theorem failure_of_found (hsize : arguments.size < UInt64.size) {value : Value}
    (h : arguments.values[index.toNat]? = some value) (cause : UInt64 → AccessError) :
    ∃ position : UInt64, position.toNat = index.toNat + 1 ∧ failure index cause = cause position := by
  have hlt : index.toNat < arguments.size := (List.getElem?_eq_some_iff.1 h).1
  exact failure_of_lt (by omega) cause

/-! ## What a reader does -/

theorem readAs_eq_ok_iff {type : ValueType} {carried : type.Carried} : arguments.readAs index type = .ok carried ↔
    ∃ value, arguments.values[index.toNat]? = some value ∧ value.as? type = some carried := by
  rw [readAs_eq, get?]
  cases arguments.values[index.toNat]? with
  | none => simp
  | some value =>
    simp only [Option.some.injEq, exists_eq_left']
    cases value.as? type <;> simp

theorem readAs_of_missing {type : ValueType} (h : arguments.size ≤ index.toNat) :
    arguments.readAs index type = .error (failure index (.missing · arguments.size)) := by
  have hnone : arguments.get? index = none := List.getElem?_eq_none h
  simp only [readAs_eq, hnone]

theorem readAs_of_mismatch {type : ValueType} {value : Value} (h : arguments.values[index.toNat]? = some value)
    (hvalue : value.as? type = none) :
    arguments.readAs index type = .error (failure index (.mismatch · value.type type)) := by
  have hfound : arguments.get? index = some value := h
  simp only [readAs_eq, hfound, hvalue]

/-- a handler that uses a reader fails with the text of its error, if this is one that can be reported -/
theorem argument_of_error {α : Type} {e : AccessError} (h : e ≠ .overflow) (scope : Scope H) :
    (Action.argument (.error e) : Action H α) scope = .error (.error [e.message]) scope := by
  cases e with
  | missing position provided => rfl
  | mismatch position found expected => rfl
  | overflow => exact absurd rfl h

theorem argument_of_overflow {α : Type} (scope : Scope H) :
    (Action.argument (.error .overflow) : Action H α) scope =
      .error (.panic (some AccessError.overflow.message)) scope :=
  rfl

/-- no value stands at the last index -/
theorem missing_of_last (hsize : arguments.size < UInt64.size) (h : index.toNat + 1 = UInt64.size) :
    arguments.size ≤ index.toNat := by
  omega

/-- **Reading is safe at every index but the last.** The number of values is a word. A reader gives something exactly if
there is a value at the index, and it is of the type of the reader, or an integer for that of floats. Otherwise the
reader, and a handler that uses it, ends with an error that tells the place, one more than the index as an exact number.
At the last index it overflows instead, and a handler panics. -/
theorem reads_at_every_index (arguments : Arguments) (hsize : arguments.size < UInt64.size) (index : UInt64)
    (type : ValueType) (scope : Scope H) :
    (∀ carried, arguments.readAs index type = .ok carried ↔
      ∃ value, arguments.values[index.toNat]? = some value ∧ value.as? type = some carried) ∧
    (∀ value : Value, value.as? type = none ↔ value.type ≠ type ∧ ¬ (value.type = .integer ∧ type = .float)) ∧
    (∀ value, arguments.values[index.toNat]? = some value → value.as? type = none →
      ∃ e, arguments.readAs index type = .error e ∧
        e.message = "Argument #" ++ toString (index.toNat + 1) ++ " is " ++ value.type.name ++ ", not " ++ type.name ∧
        Action.argument (arguments.readAs index type) scope = .error (.error [e.message]) scope) ∧
    (arguments.size ≤ index.toNat → index.toNat + 1 < UInt64.size →
      ∃ e, arguments.readAs index type = .error e ∧
        e.message = "Missing argument #" ++ toString (index.toNat + 1) ++ " (" ++ toString arguments.size ++
          " provided)" ∧
        Action.argument (arguments.readAs index type) scope = .error (.error [e.message]) scope) ∧
    (index.toNat + 1 = UInt64.size → arguments.readAs index type = .error .overflow ∧
      Action.argument (arguments.readAs index type) scope =
        .error (.panic (some "attempt to add with overflow")) scope) := by
  refine ⟨fun carried => readAs_eq_ok_iff, fun value => Value.as?_eq_none_iff, ?_, ?_, ?_⟩
  · intro value hfound hvalue
    obtain ⟨position, hposition, hfailure⟩ := failure_of_found hsize hfound (.mismatch · value.type type)
    rw [readAs_of_mismatch hfound hvalue, hfailure]
    refine ⟨.mismatch position value.type type, rfl, ?_, argument_of_error (by simp) scope⟩
    rw [← hposition]
    rfl
  · intro hmissing hlt
    obtain ⟨position, hposition, hfailure⟩ := failure_of_lt hlt (.missing · arguments.size)
    rw [readAs_of_missing hmissing, hfailure]
    refine ⟨.missing position arguments.size, rfl, ?_, argument_of_error (by simp) scope⟩
    rw [← hposition]
    rfl
  · intro hlast
    rw [readAs_of_missing (missing_of_last hsize hlast), failure_of_last hlast]
    exact ⟨rfl, argument_of_overflow scope⟩

/-- an integer read as a float and as a boolean, and the last place that is a word -/
theorem reads_at_every_index_far :
    let arguments : Arguments := ⟨[.integer 7, .text "on"]⟩
    let scope : Scope Demo.host := ⟨Demo.World.start, []⟩
    arguments.size < UInt64.size ∧ arguments.float 0 = .ok (Binary.ofInt 7) ∧
      (∃ e, arguments.boolean 0 = .error e ∧ e.message = "Argument #1 is int, not bool") ∧
      (∃ e, arguments.text 18446744073709551614 = .error e ∧
        e.message = "Missing argument #18446744073709551615 (2 provided)" ∧
        Action.argument (arguments.text 18446744073709551614) scope = .error (.error [e.message]) scope) ∧
      arguments.text 18446744073709551615 = .error .overflow := by
  intro arguments scope
  have hsize : arguments.size < UInt64.size := by decide
  have hread := fun index type => reads_at_every_index arguments hsize index type scope
  refine ⟨hsize, ?_, ?_, ?_, ?_⟩
  · exact ((hread 0 .float).1 _).2 ⟨.integer 7, rfl, rfl⟩
  · obtain ⟨-, -, hmismatch, -⟩ := hread 0 .boolean
    obtain ⟨e, he, hmessage, -⟩ := hmismatch (.integer 7) rfl rfl
    exact ⟨e, he, hmessage.trans (by decide)⟩
  · obtain ⟨-, -, -, hmissing, -⟩ := hread 18446744073709551614 .text
    obtain ⟨e, he, hmessage, haction⟩ := hmissing (by decide) (by decide)
    exact ⟨e, he, hmessage.trans (by decide), haction⟩
  · obtain ⟨-, -, -, -, hlast⟩ := hread 18446744073709551615 .text
    exact (hlast (by decide)).1

/-- reading at the last index tells no place, and a handler that does it panics -/
theorem last_index_unreported :
    let arguments : Arguments := ⟨[.integer 7]⟩
    let scope : Scope Demo.host := ⟨Demo.World.start, []⟩
    arguments.integer 18446744073709551615 = .error .overflow ∧
      AccessError.overflow.message ≠ "Missing argument #18446744073709551616 (1 provided)" ∧
      Action.argument (arguments.integer 18446744073709551615) scope =
        .error (.panic (some "attempt to add with overflow")) scope := by
  intro arguments scope
  have hread : arguments.integer 18446744073709551615 = .error .overflow := by
    have hmissing : arguments.size ≤ (18446744073709551615 : UInt64).toNat := by decide
    have hlast : (18446744073709551615 : UInt64).toNat + 1 = UInt64.size := by decide
    change arguments.readAs 18446744073709551615 .integer = .error .overflow
    rw [readAs_of_missing hmissing, failure_of_last hlast]
  refine ⟨hread, by decide, ?_⟩
  rw [hread]
  exact argument_of_overflow scope

end HostConsole.Arguments
