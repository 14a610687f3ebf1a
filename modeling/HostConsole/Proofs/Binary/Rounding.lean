/-
Rounding of ratios. What a ratio of units rounds to depends on the ratio alone (`roundRatio_congr`), and the value of a
finite number rounds to that number (`roundRatio_units`): rounding undoes exactness.
-/
import Mathlib.Tactic
import HostConsole.Binary.Basic

namespace HostConsole.Format

variable {F : Format}

/-! ## The ratio alone counts -/

theorem nearest_mul (num den : ℕ) {k : ℕ} (hk : 0 < k) : nearest (num * k) (den * k) = nearest num den := by
  have hlt : den * k < 2 * (num % den * k) ↔ den < 2 * (num % den) := by
    rw [← Nat.mul_assoc, Nat.mul_lt_mul_right hk]
  have heq : 2 * (num % den * k) = den * k ↔ 2 * (num % den) = den := by
    rw [← Nat.mul_assoc, Nat.mul_left_inj hk.ne']
  simp only [nearest, Nat.mul_div_mul_right _ _ hk, Nat.mul_mod_mul_right, hlt, Bool.or_eq_true, decide_eq_true_eq,
    Bool.and_eq_true, beq_iff_eq, heq]

theorem roundRatio_mul (F : Format) (num den : ℕ) {k : ℕ} (hk : 0 < k) :
    F.roundRatio (num * k) (den * k) = F.roundRatio num den := by
  unfold roundRatio
  rw [Nat.mul_div_mul_right _ _ hk]
  simp only [Nat.mul_right_comm den k, nearest_mul _ _ hk]

/-- equal ratios round to the same rank -/
theorem roundRatio_congr (F : Format) {num den num' den' : ℕ} (hden : 0 < den) (hden' : 0 < den')
    (h : num * den' = num' * den) : F.roundRatio num den = F.roundRatio num' den' := by
  rw [← roundRatio_mul F num den hden', h, Nat.mul_comm den den', roundRatio_mul F num' den' hden]

/-- a whole number is its own nearest -/
theorem nearest_one (n : ℕ) : nearest n 1 = n := by
  simp [nearest, Nat.mod_one]

/-! ## Ranks and their values -/

theorem binadeSize_pos (F : Format) : 0 < F.binadeSize :=
  Nat.pow_pos (by decide)

theorem one_pos (F : Format) : 0 < F.one :=
  Nat.pow_pos (by decide)

/-- in the first two binades the value is the rank -/
theorem units_of_le {rank : ℕ} (h : rank / F.binadeSize ≤ 1) : F.units rank = rank :=
  if_pos h

/-- in a later binade the value is a fraction scaled by a power of two -/
theorem units_of_lt {rank : ℕ} (h : 1 < rank / F.binadeSize) :
    F.units rank = (F.binadeSize + rank % F.binadeSize) * 2 ^ (rank / F.binadeSize - 1) :=
  if_neg (not_le.2 h)

theorem units_pos {rank : ℕ} (h : rank ≠ 0) : 0 < F.units rank := by
  rcases Nat.lt_or_ge 1 (rank / F.binadeSize) with hlater | hfirst
  · rw [units_of_lt hlater]
    exact Nat.mul_pos (Nat.add_pos_left F.binadeSize_pos _) (Nat.pow_pos (by decide))
  · rw [units_of_le hfirst]
    exact Nat.pos_of_ne_zero h

/-- the value of a rank lies below the end of its binade, the first two being one -/
theorem units_lt_binade (F : Format) (rank : ℕ) :
    F.units rank < 2 ^ (F.fractionBits + (rank / F.binadeSize - 1) + 1) := by
  have hsize : F.binadeSize = 2 ^ F.fractionBits := rfl
  have hrest : rank % F.binadeSize < F.binadeSize := Nat.mod_lt _ F.binadeSize_pos
  rw [Nat.add_right_comm, Nat.pow_add, Nat.pow_succ', ← hsize]
  rcases Nat.lt_or_ge 1 (rank / F.binadeSize) with hlater | hfirst
  · rw [units_of_lt hlater]
    exact (Nat.mul_lt_mul_right (Nat.pow_pos (by decide))).2 (by omega)
  · have hbinade : rank / F.binadeSize - 1 = 0 := Nat.sub_eq_zero_of_le hfirst
    have hbelow : F.binadeSize * (rank / F.binadeSize) ≤ F.binadeSize * 1 := Nat.mul_le_mul_left _ hfirst
    have hwhole : F.binadeSize * (rank / F.binadeSize) + rank % F.binadeSize = rank := Nat.div_add_mod _ _
    rw [units_of_le hfirst, hbinade, Nat.pow_zero]
    omega

/-- finite numbers lie below two to the power of the count of binades -/
theorem units_lt {rank : ℕ} (h : rank < F.infinity) : F.units rank < 2 ^ 2 ^ F.exponentBits * F.one := by
  have hbinade : rank / F.binadeSize < 2 ^ F.exponentBits - 1 := (Nat.div_lt_iff_lt_mul F.binadeSize_pos).2 h
  calc F.units rank < 2 ^ (F.fractionBits + (rank / F.binadeSize - 1) + 1) := F.units_lt_binade rank
    _ ≤ 2 ^ (2 ^ F.exponentBits + F.unitBits) := by
      refine Nat.pow_le_pow_right (by decide) ?_
      unfold unitBits
      generalize rank / F.binadeSize = binade at hbinade
      omega
    _ = 2 ^ 2 ^ F.exponentBits * F.one := Nat.pow_add ..

/-! ## Rounding undoes exactness -/

/-- rounding finds the binade of a value -/
theorem log2_units (F : Format) (rank : ℕ) :
    Nat.log2 (F.units rank) - F.fractionBits = rank / F.binadeSize - 1 := by
  rcases Nat.eq_zero_or_pos rank with rfl | hpos
  · simp [units]
  · have hne : F.units rank ≠ 0 := (units_pos hpos.ne').ne'
    have hbelow : Nat.log2 (F.units rank) < F.fractionBits + (rank / F.binadeSize - 1) + 1 :=
      (Nat.log2_lt hne).2 (F.units_lt_binade rank)
    rcases Nat.lt_or_ge 1 (rank / F.binadeSize) with hlater | hfirst
    · have habove : F.fractionBits + (rank / F.binadeSize - 1) ≤ Nat.log2 (F.units rank) := by
        rw [Nat.le_log2 hne, units_of_lt hlater, Nat.pow_add]
        exact Nat.mul_le_mul_right _ (Nat.le_add_right _ _)
      omega
    · omega

/-- in its binade a value is a whole number of steps, and needs no rounding -/
theorem nearest_units (F : Format) (rank : ℕ) :
    (rank / F.binadeSize - 1) * F.binadeSize + nearest (F.units rank) (2 ^ (rank / F.binadeSize - 1)) = rank := by
  have hwhole : F.binadeSize * (rank / F.binadeSize) + rank % F.binadeSize = rank := Nat.div_add_mod _ _
  rcases Nat.lt_or_ge 1 (rank / F.binadeSize) with hlater | hfirst
  · have hnearest : nearest (F.units rank) (2 ^ (rank / F.binadeSize - 1)) = F.binadeSize + rank % F.binadeSize := by
      have hmul := nearest_mul (F.binadeSize + rank % F.binadeSize) 1
        (Nat.pow_pos (a := 2) (n := rank / F.binadeSize - 1) (by decide))
      rwa [← units_of_lt hlater, Nat.one_mul, nearest_one] at hmul
    obtain ⟨b, hb⟩ : ∃ b, rank / F.binadeSize = b + 1 := ⟨_, (Nat.succ_pred_eq_of_pos (by omega)).symm⟩
    rw [hnearest, hb, Nat.add_sub_cancel, Nat.mul_comm b]
    rw [hb, Nat.mul_succ] at hwhole
    omega
  · have hbinade : rank / F.binadeSize - 1 = 0 := Nat.sub_eq_zero_of_le hfirst
    rw [hbinade, units_of_le hfirst, Nat.pow_zero, nearest_one, Nat.zero_mul, Nat.zero_add]

/-- **The value of a finite number rounds to that number** -/
theorem roundRatio_units {rank : ℕ} (h : rank < F.infinity) : F.roundRatio (F.units rank) 1 = rank := by
  simp only [roundRatio, Nat.div_one, Nat.one_mul, Nat.pow_eq, log2_units, nearest_units]
  exact Nat.min_eq_right h.le

end HostConsole.Format
