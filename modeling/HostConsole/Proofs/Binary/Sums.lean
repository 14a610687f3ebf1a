/-
Numbers from zero up. Among numbers the order is total (`lt_eq_not_le`), and sums and conversions of numbers from zero
up are such numbers again, so that no sum of times becomes `nan`. A finite number less itself is zero, and counts of 64
bits are finite in double width.
-/
import Mathlib.Tactic
import HostConsole.Binary.Arithmetic
import HostConsole.Proofs.Binary.Rounding

namespace HostConsole

variable {F G : Format}

namespace Format

theorem infinity_pos (h : 0 < F.exponentBits) : 0 < F.infinity :=
  Nat.mul_pos (Nat.sub_pos_of_lt (Nat.one_lt_two_pow h.ne')) F.binadeSize_pos

theorem units_zero (F : Format) : F.units 0 = 0 := by
  simp [units]

theorem roundRatio_zero (F : Format) (den : ℕ) : F.roundRatio 0 den = 0 := by
  simp [roundRatio, nearest]

/-- a ratio rounds to its own binade, or to the start of the one above -/
theorem roundRatio_le (F : Format) (num den : ℕ) :
    F.roundRatio num den ≤ (Nat.log2 (num / den) - F.fractionBits + 2) * F.binadeSize := by
  set binade := Nat.log2 (num / den) - F.fractionBits with hbinade
  have hquotient : num / (den * 2 ^ binade) < 2 * F.binadeSize := by
    rw [← Nat.div_div_eq_div_mul, Nat.div_lt_iff_lt_mul (Nat.pow_pos (by decide))]
    calc num / den < 2 ^ (Nat.log2 (num / den) + 1) := Nat.lt_log2_self
      _ ≤ 2 ^ (1 + F.fractionBits + binade) := Nat.pow_le_pow_right (by decide) (by omega)
      _ = 2 * F.binadeSize * 2 ^ binade := by rw [Nat.pow_add, Nat.pow_add, Nat.pow_one]; rfl
  have hnearest : nearest num (den * 2 ^ binade) ≤ num / (den * 2 ^ binade) + 1 := by
    unfold nearest
    dsimp only
    split_ifs <;> omega
  calc F.roundRatio num den ≤ binade * F.binadeSize + nearest num (den * 2 ^ binade) := Nat.min_le_right _ _
    _ ≤ binade * F.binadeSize + 2 * F.binadeSize := by omega
    _ = (binade + 2) * F.binadeSize := (Nat.add_mul ..).symm

/-- the binade of a whole number -/
theorem log2_mul_one (F : Format) {n k : ℕ} (h : n < 2 ^ (k + 1)) :
    Nat.log2 (n * F.one / 1) ≤ k + F.unitBits := by
  rw [Nat.div_one]
  rcases Nat.eq_zero_or_pos n with rfl | hpos
  · simp
  · refine Nat.le_of_lt_succ ((Nat.log2_lt (Nat.mul_pos hpos F.one_pos).ne').2 ?_)
    calc n * F.one < 2 ^ (k + 1) * F.one := (Nat.mul_lt_mul_right F.one_pos).2 h
      _ = 2 ^ (k + 1 + F.unitBits) := (Nat.pow_add ..).symm
      _ = 2 ^ (k + F.unitBits + 1) := by rw [Nat.add_right_comm]

end Format

namespace Binary

variable {x y : Binary F}

/-! ## Order -/

/-- among numbers the order is total -/
theorem lt_eq_not_le (hx : x.isNan = false) (hy : y.isNan = false) : x.lt y = !y.le x := by
  cases x with
  | nan => cases hx
  | number s a ha =>
    cases y with
    | nan => cases hy
    | number t b hb =>
      simp only [lt, le, place?]
      rw [← decide_not, decide_eq_decide]
      omega

/-- a number from zero up; a negative sign goes with zero alone -/
inductive AtLeastZero : Binary F → Prop
  | number {negative : Bool} {rank : ℕ} {h : rank ≤ F.infinity} (sign : negative = true → rank = 0) :
      AtLeastZero (.number negative rank h)

theorem AtLeastZero.isNan (h : AtLeastZero x) : x.isNan = false := by
  cases h
  rfl

theorem atLeastZero_zero (negative : Bool) : AtLeastZero (zero negative : Binary F) :=
  .number fun _ => Nat.min_eq_right (Nat.zero_le _)

theorem atLeastZero_ofRatio (num den : ℕ) : AtLeastZero (ofRatio false num den : Binary F) :=
  .number fun h => by cases h

theorem atLeastZero_of_not_lt (hn : x.isNan = false) (h : x.lt (zero false) = false) : AtLeastZero x := by
  cases x with
  | nan => cases hn
  | number s a ha =>
    refine .number fun hs => ?_
    simp only [lt, place?, zero, ofRank, hs] at h
    simpa using h

theorem AtLeastZero.add (hF : 0 < F.exponentBits) (hx : AtLeastZero x) (hy : AtLeastZero y) :
    AtLeastZero (x.add y) := by
  obtain ⟨hs⟩ := hx
  obtain ⟨ht⟩ := hy
  rename_i s a ha t b hb
  have hinfinity := F.infinity_pos hF
  have hunits : ∀ {sign : Bool} {rank : ℕ}, (sign = true → rank = 0) →
      signedUnits (F := F) sign rank = F.units rank := by
    intro sign rank hsign
    cases sign with
    | false => rfl
    | true => simp [signedUnits, hsign rfl, F.units_zero]
  simp only [Binary.add, hunits hs, hunits ht]
  split_ifs with hinf hboth hother hsum
  · -- both infinite: their signs agree
    simp only [Bool.and_eq_true, decide_eq_true_eq, bne_iff_ne] at hboth
    cases s <;> cases t <;> simp_all
  · exact .number hs
  · exact .number ht
  · exact atLeastZero_zero _
  · have hnot : decide ((F.units a : ℤ) + F.units b < 0) = false := decide_eq_false (by omega)
    rw [hnot]
    exact atLeastZero_ofRatio _ _

/-- zero is zero in every format -/
theorem convert_zero (hF : 0 < F.exponentBits) (negative : Bool) (G : Format) :
    (zero negative : Binary F).convert G = zero negative := by
  have hinfinity := F.infinity_pos hF
  simp only [Binary.convert, zero, ofRank, Nat.min_eq_right (Nat.zero_le _), hinfinity.ne, if_false, F.units_zero,
    Nat.zero_mul, ofRatio, G.roundRatio_zero]

theorem AtLeastZero.convert (hF : 0 < F.exponentBits) (hx : AtLeastZero x) (G : Format) :
    AtLeastZero (x.convert G) := by
  obtain ⟨hs⟩ := hx
  rename_i s a ha
  have hinfinity := F.infinity_pos hF
  cases s with
  | false =>
    simp only [Binary.convert]
    split_ifs
    · exact .number fun h => by cases h
    · exact atLeastZero_ofRatio _ _
  | true =>
    obtain rfl := hs rfl
    have hzero : (.number true 0 ha : Binary F) = zero true := by
      simp only [zero, ofRank, Nat.min_eq_right (Nat.zero_le _)]
    rw [hzero, convert_zero hF]
    exact atLeastZero_zero true

/-! ## Differences -/

/-- a finite number less itself is zero -/
theorem sub_self (h : x.isFinite = true) : x.sub x = zero false := by
  cases x with
  | nan => cases h
  | number s a ha =>
    have hlt : a ≠ F.infinity := ne_of_lt (of_decide_eq_true h)
    have hsum : signedUnits (F := F) s a + signedUnits (F := F) (!s) a = 0 := by
      cases s <;> simp [signedUnits]
    have hsign : (s && !s) = false := by cases s <;> rfl
    simp only [sub, neg, add, hlt, if_false, hsum, if_true, hsign]

theorem isFinite_ofRank (negative : Bool) {rank : ℕ} (h : rank < F.infinity) :
    (ofRank negative rank : Binary F).isFinite = true :=
  decide_eq_true ((Nat.min_le_right _ _).trans_lt h)

/-- counts of 64 bits are finite in double width -/
theorem isFinite_ofNat {n : ℕ} (h : n < UInt64.size) : (ofNat n : Double).isFinite = true := by
  have hlog := Format.double.log2_mul_one (k := 63) h
  have hrank := Format.double.roundRatio_le (n * Format.double.one) 1
  have hinfinity : Format.double.infinity = 2047 * Format.double.binadeSize := by decide
  have hunit : Format.double.unitBits = 1074 := by decide
  have hlt : Format.double.roundRatio (n * Format.double.one) 1 < Format.double.infinity := by
    rw [hinfinity]
    refine hrank.trans_lt (Nat.mul_lt_mul_of_pos_right ?_ Format.double.binadeSize_pos)
    generalize Nat.log2 (n * Format.double.one / 1) = log at hlog
    omega
  exact isFinite_ofRank false hlt

end Binary

end HostConsole
