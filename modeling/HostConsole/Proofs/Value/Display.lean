/-
Texts of values. Every value is read back from its text as the type it has (`read?_display`), and the text of a value
that was read from a word is a word (`isWord_display`): digits, a point, a sign and a few letters, or the word itself.
-/
import HostConsole.Proofs.Decimal.ReadBack
import HostConsole.Proofs.Value.Access
import HostConsole.Proofs.Value.Grammar

namespace HostConsole

/-! ## Texts of numbers are words -/

theorem isBlank_of_isDigit {c : Char} (h : c.isDigit = true) : Text.isBlank c = false :=
  Parameter.isBlank_of_isNameChar (by simp [Parameter.isNameChar, Char.isAlphanum, h])

theorem isWord_repr (n : ℕ) : Text.IsWord (Nat.repr n).toList :=
  ⟨Decimal.repr_ne_nil n, fun _ hc => isBlank_of_isDigit (Decimal.isDigit_of_mem_repr hc)⟩

theorem Decimal.Plain.isWord {s : List Char} {d : Decimal} (h : Plain s d) : Text.IsWord s := by
  refine ⟨?_, fun c hc => ?_⟩
  · obtain ⟨c, rest, rfl, -⟩ := h.exists_digit
    exact List.cons_ne_nil _ _
  · rcases h.digit_or_point c hc with hdigit | rfl
    · exact isBlank_of_isDigit hdigit
    · decide

theorem isWord_signed (negative : Bool) {s : String} (h : Text.IsWord s.toList) :
    Text.IsWord ((if negative then "-" else "") ++ s).toList := by
  cases negative with
  | true =>
    rw [String.toList_append]
    exact Text.isWord_cons (by decide) h
  | false => simpa using h

theorem isWord_toString (n : ℤ) : Text.IsWord (toString n).toList := by
  cases n with
  | ofNat m => exact isWord_repr m
  | negSucc m => exact isWord_signed true (isWord_repr (m + 1))

theorem Binary.isWord_text {F : Format} (x : Binary F) : Text.IsWord x.text.toList := by
  cases x with
  | nan =>
    show Text.IsWord "NaN".toList
    decide
  | number negative rank hle =>
    by_cases hinfinite : rank = F.infinity
    · simp only [text, if_pos hinfinite]
      exact isWord_signed negative (by decide)
    · obtain ⟨body, d, htext, hplain, -⟩ := Decimal.exists_plain_text negative hle hinfinite
      rw [htext]
      exact isWord_signed negative hplain.isWord

/-! ## Texts of values -/

namespace Value

/-- **Every value is read back from its text** -/
theorem read?_display (value : Value) : value.type.read? value.display = some value := by
  cases value with
  | integer n =>
    show (Decimal.readInt64? (toString n.toInt)).map Value.integer = _
    rw [Decimal.readInt64?_toString, Option.map_some]
  | float x =>
    show (Decimal.readBinary? Format.double x.text).map Value.float = _
    rw [Decimal.readBinary?_text, Option.map_some]
  | boolean b => cases b <;> decide +kernel
  | text s => rfl

/-- the text of a value that was read from a word is a word -/
theorem isWord_display {type : ValueType} {word : String} {value : Value} (h : type.read? word = some value)
    (hw : Text.IsWord word.toList) : Text.IsWord value.display.toList := by
  cases value with
  | integer n => exact isWord_toString n.toInt
  | float x => exact x.isWord_text
  | boolean b => cases b <;> decide
  | text s =>
    obtain rfl : ValueType.text = type := ValueType.type_of_read? h
    cases h
    exact hw

end Value

end HostConsole
