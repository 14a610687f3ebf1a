/-
Numbers in a wider format. A number of few bits scaled by a power of two is the value of a rank (`exists_units`), so that
every finite number of a format has its value in any format that is wider in all respects, and converting it there
rounds nothing away (`sameValue_convert`).
-/
import HostConsole.Binary.Arithmetic
import HostConsole.Proofs.Binary.Rounding

namespace HostConsole

variable {F G : Format}

namespace Format

/-! ## Values of ranks -/

/-- a finite value is a number of few bits scaled by the power of two of its binade -/
theorem exists_fraction (F : Format) (rank : ℕ) :
    ∃ fraction < 2 * F.binadeSize, F.units rank = fraction * 2 ^ (rank / F.binadeSize - 1) := by
  have hrest : rank % F.binadeSize < F.binadeSize := Nat.mod_lt _ F.binadeSize_pos
  rcases Nat.lt_or_ge 1 (rank / F.binadeSize) with hlater | hfirst
  · exact ⟨F.binadeSize + rank % F.binadeSize, by omega, units_of_lt hlater⟩
  · refine ⟨rank, ?_, ?_⟩
    · exact (Nat.div_lt_iff_lt_mul F.binadeSize_pos).1 (Nat.lt_succ_of_le hfirst)
    · rw [units_of_le hfirst, Nat.sub_eq_zero_of_le hfirst, Nat.pow_zero, Nat.mul_one]

/-- and every such number is the value of a rank, in that binade or below it -/
theorem exists_units {fraction : ℕ} (scale : ℕ) (h : fraction < 2 * F.binadeSize) :
    ∃ rank < (scale + 2) * F.binadeSize, F.units rank = fraction * 2 ^ scale := by
  induction scale generalizing fraction with
  | zero =>
    refine ⟨fraction, by omega, ?_⟩
    rw [Nat.pow_zero, Nat.mul_one]
    exact units_of_le (Nat.le_of_lt_succ ((Nat.div_lt_iff_lt_mul F.binadeSize_pos).2 h))
  | succ scale ih =>
    rcases Nat.lt_or_ge fraction F.binadeSize with hsmall | hlarge
    · -- a bit is still free: the scale goes down by one
      have hdouble : 2 * fraction < 2 * F.binadeSize := by omega
      obtain ⟨rank, hrank, hunits⟩ := ih hdouble
      refine ⟨rank, hrank.trans_le (Nat.mul_le_mul_right _ (by omega)), ?_⟩
      rw [hunits, Nat.pow_succ', Nat.mul_comm 2 fraction, Nat.mul_assoc]
    · have hrest : fraction - F.binadeSize < F.binadeSize := by omega
      have hbinade : ((scale + 2) * F.binadeSize + (fraction - F.binadeSize)) / F.binadeSize = scale + 2 := by
        rw [Nat.mul_comm, Nat.mul_add_div F.binadeSize_pos, Nat.div_eq_of_lt hrest, Nat.add_zero]
      have hmod : ((scale + 2) * F.binadeSize + (fraction - F.binadeSize)) % F.binadeSize =
          fraction - F.binadeSize := by
        rw [Nat.mul_comm, Nat.mul_add_mod, Nat.mod_eq_of_lt hrest]
      refine ⟨(scale + 2) * F.binadeSize + (fraction - F.binadeSize), ?_, ?_⟩
      · have hnext : (scale + 1 + 2) * F.binadeSize = (scale + 2) * F.binadeSize + F.binadeSize :=
          Nat.succ_mul (scale + 2) _
        omega
      · rw [units_of_lt (by omega), hbinade, hmod, Nat.add_sub_cancel' hlarge]
        rfl

/-- a format with no fewer bits of a fraction, smaller units, and more binades above them -/
structure Within (F G : Format) : Prop where
  fraction : F.binadeSize ≤ G.binadeSize
  unit : F.unitBits ≤ G.unitBits
  range : 2 ^ F.exponentBits + (G.unitBits - F.unitBits) < 2 ^ G.exponentBits

theorem single_within_double : Within single double :=
  ⟨by decide, by decide, by decide⟩

/-- a finite value has a rank in the wider format, which is finite there -/
theorem Within.exists_rank (h : Within F G) {rank : ℕ} (hfinite : rank < F.infinity) :
    ∃ wide < G.infinity, F.units rank * G.one = G.units wide * F.one := by
  obtain ⟨fraction, hfraction, hunits⟩ := F.exists_fraction rank
  obtain ⟨wide, hwide, hvalue⟩ := exists_units (F := G) (rank / F.binadeSize - 1 + (G.unitBits - F.unitBits))
    (hfraction.trans_le (Nat.mul_le_mul_left 2 h.fraction))
  have hbinade : rank / F.binadeSize < 2 ^ F.exponentBits - 1 := (Nat.div_lt_iff_lt_mul F.binadeSize_pos).2 hfinite
  have hone : G.one = 2 ^ (G.unitBits - F.unitBits) * F.one := by
    change 2 ^ G.unitBits = 2 ^ (G.unitBits - F.unitBits) * 2 ^ F.unitBits
    rw [← Nat.pow_add, Nat.sub_add_cancel h.unit]
  refine ⟨wide, hwide.trans_le (Nat.mul_le_mul_right _ ?_), ?_⟩
  · have := h.range
    generalize rank / F.binadeSize = binade at hbinade
    simp only [Nat.pow_eq]
    omega
  · rw [hunits, hvalue, hone, Nat.pow_add]
    simp only [Nat.mul_assoc]

end Format

namespace Binary

/-! ## Conversion -/

/-- two finite numbers, maybe of two formats, with one sign and one value; each value is counted in its own units -/
inductive SameValue : Binary F → Binary G → Prop
  | number {negative : Bool} {rank other : ℕ} {h : rank ≤ F.infinity} {h' : other ≤ G.infinity}
    (finite : rank < F.infinity) (finite' : other < G.infinity)
    (value : F.units rank * G.one = G.units other * F.one) : SameValue (.number negative rank h) (.number negative other h')

/-- **A finite number keeps its value in a wider format** -/
theorem sameValue_convert (hwithin : F.Within G) {x : Binary F} (h : x.isFinite = true) :
    SameValue x (x.convert G) := by
  cases x with
  | nan => cases h
  | number negative rank hrank =>
    have hfinite : rank < F.infinity := of_decide_eq_true h
    obtain ⟨wide, hwide, hvalue⟩ := hwithin.exists_rank hfinite
    have hratio : G.units wide * F.one * 1 = G.units wide * F.one := Nat.mul_one _
    have hround : G.roundRatio (F.units rank * G.one) F.one = wide := by
      rw [hvalue, G.roundRatio_congr F.one_pos Nat.one_pos hratio, Format.roundRatio_units hwide]
    have hmin : min G.infinity wide = wide := Nat.min_eq_right hwide.le
    simp only [convert, if_neg hfinite.ne, ofRatio, hround, ofRank]
    exact .number hfinite (by rw [hmin]; exact hwide) (by rw [hmin]; exact hvalue)

end Binary

end HostConsole
