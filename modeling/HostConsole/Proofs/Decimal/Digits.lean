/-
Whole numbers as digits. The digits of a number read as the number, with zeros behind them as its product with a power
of ten, and their count says between which powers of ten the number lies.

Result: `readInt64?_toString`. A signed word of 64 bits is read back from its text.
-/
import Mathlib.Data.List.TakeWhile
import Mathlib.Tactic
import HostConsole.Decimal.Read

namespace HostConsole.Decimal

/-! ## Digits -/

theorem ofDigits_eq (digits : List Char) : ofDigits digits = Nat.ofDigitChars 10 digits 0 :=
  Nat.ofDigitChars_eq_foldl.symm

theorem isDigit_of_mem_repr {n : ℕ} {c : Char} (h : c ∈ (Nat.repr n).toList) : c.isDigit = true :=
  Nat.isDigit_of_mem_toDigits (by decide) (by decide) (Nat.toList_repr ▸ h)

theorem repr_ne_nil (n : ℕ) : (Nat.repr n).toList ≠ [] := by
  rw [Nat.toList_repr]
  exact Nat.toDigits_ne_nil

theorem allDigits_repr (n : ℕ) : allDigits (Nat.repr n).toList = true := by
  rw [allDigits, Bool.and_eq_true]
  exact ⟨by simpa only [Bool.not_eq_true', List.isEmpty_eq_false_iff] using repr_ne_nil n,
    List.all_eq_true.2 fun _ => isDigit_of_mem_repr⟩

/-- the digits of a number read as the number -/
theorem ofDigits_repr (n : ℕ) : ofDigits (Nat.repr n).toList = n := by
  rw [ofDigits_eq, Nat.toList_repr, Nat.ofDigitChars_ten_toDigits]

/-- zeros behind digits multiply the number by ten each -/
theorem ofDigits_append_zeros (digits : List Char) (k : ℕ) :
    ofDigits (digits ++ List.replicate k '0') = ofDigits digits * 10 ^ k := by
  rw [ofDigits_eq, ofDigits_eq, Nat.ofDigitChars_append, Nat.ofDigitChars_replicate_zero, Nat.mul_comm]

/-- zeros in front of digits change nothing -/
theorem ofDigits_zeros_append (digits : List Char) (k : ℕ) :
    ofDigits (List.replicate k '0' ++ digits) = ofDigits digits := by
  rw [ofDigits_eq, ofDigits_eq, Nat.ofDigitChars_append, Nat.ofDigitChars_replicate_zero, Nat.mul_zero]

/-! ## Length -/

theorem length_eq (d : Decimal) : d.length = (Nat.toDigits 10 d.coefficient).length := by
  rw [length, ← String.length_toList, Nat.toList_repr]

theorem length_pos (d : Decimal) : 0 < d.length := by
  rw [length_eq]
  exact Nat.length_toDigits_pos

/-- a coefficient has at most so many digits exactly if it is below that power of ten -/
theorem length_le_iff (d : Decimal) {k : ℕ} (hk : 0 < k) : d.length ≤ k ↔ d.coefficient < 10 ^ k := by
  rw [length_eq, Nat.length_toDigits_le_iff (by decide) hk]

/-- a coefficient with so many digits is not below the power of ten with one digit less -/
theorem pow_le_coefficient {d : Decimal} (h : d.coefficient ≠ 0) : 10 ^ (d.length - 1) ≤ d.coefficient := by
  by_contra hlt
  rw [not_le] at hlt
  rcases Nat.eq_or_lt_of_le d.length_pos with hone | hmore
  · rw [← hone] at hlt
    exact h (Nat.lt_one_iff.1 hlt)
  · have hshorter := (length_le_iff d (Nat.sub_pos_of_lt hmore)).2 hlt
    omega

/-- zeros at the end of a coefficient add to its length -/
theorem length_mul_pow {c : ℕ} (hc : c ≠ 0) (e f : ℤ) (k : ℕ) :
    (Decimal.mk (c * 10 ^ k) e).length = (Decimal.mk c f).length + k := by
  set L := (Decimal.mk c f).length with hL
  have hpos : 0 < L := length_pos _
  have hpow : 0 < 10 ^ k := Nat.pow_pos (by decide)
  have hupper : c < 10 ^ L := (length_le_iff ⟨c, f⟩ hpos).1 le_rfl
  have hlower : 10 ^ (L - 1) ≤ c := pow_le_coefficient (d := ⟨c, f⟩) hc
  apply le_antisymm
  · rw [length_le_iff _ (by omega), Nat.pow_add]
    exact (Nat.mul_lt_mul_right hpow).2 hupper
  · by_contra hlt
    -- a shorter product would lie below the least coefficient of this length, scaled
    have hle : (Decimal.mk (c * 10 ^ k) e).length ≤ L - 1 + k := by omega
    have hsome : 0 < L - 1 + k := lt_of_lt_of_le (length_pos _) hle
    have hbelow := (length_le_iff _ hsome).1 hle
    rw [Nat.pow_add] at hbelow
    exact absurd hlower (not_le.2 ((Nat.mul_lt_mul_right hpow).1 hbelow))

/-! ## Signed words -/

theorem takeSign_of_isDigit {s : List Char} (h : ∀ c ∈ s.head?, c.isDigit = true) : takeSign s = (false, s) := by
  unfold takeSign
  split
  · exact absurd (h _ rfl) (by decide)
  · exact absurd (h _ rfl) (by decide)
  · rfl

theorem takeSign_repr (n : ℕ) : takeSign (Nat.repr n).toList = (false, (Nat.repr n).toList) :=
  takeSign_of_isDigit fun _ hc => isDigit_of_mem_repr (List.mem_of_head? hc)

/-- a text of a sign and digits is read if the number fits a signed word -/
theorem readInt64?_of_digits (s : String) (negative : Bool) (m : ℕ) (n : Int64)
    (hs : takeSign s.toList = (negative, (Nat.repr m).toList)) (hn : (if negative then -(m : ℤ) else m) = n.toInt) :
    readInt64? s = some n := by
  have hmin : Int64.minValue.toInt ≤ n.toInt := Int64.minValue_le_toInt n
  have hmax : n.toInt ≤ Int64.maxValue.toInt := Int64.toInt_le n
  simp only [readInt64?, hs, allDigits_repr, ofDigits_repr, hn, hmin, hmax, if_true, decide_true, Bool.and_self,
    Int64.ofInt_toInt]

/-- **A signed word of 64 bits is read back from its text** -/
theorem readInt64?_toString (n : Int64) : readInt64? (toString n.toInt) = some n := by
  cases hn : n.toInt with
  | ofNat m => exact readInt64?_of_digits _ false m n (takeSign_repr m) hn.symm
  | negSucc m =>
    refine readInt64?_of_digits _ true (m + 1) n ?_ ?_
    · show takeSign ("-" ++ Nat.repr (m + 1)).toList = _
      rw [String.toList_append]
      rfl
    · rw [hn]
      rfl

end HostConsole.Decimal
