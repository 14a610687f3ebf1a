/-
The order of numbers and their greatest. Numbers are compared by their places, so that the order is that of the whole
numbers; the greatest of some finite numbers is finite, and none of them is above it (`foldl_max`).
-/
import HostConsole.Proofs.Binary.Sums

namespace HostConsole.Binary

variable {F : Format} {x y z : Binary F}

/-! ## Places -/

theorem le_iff : x.le y = true ↔ ∃ a b, x.place? = some a ∧ y.place? = some b ∧ a ≤ b := by
  unfold le
  cases x.place? <;> cases y.place? <;> simp

theorem lt_iff : x.lt y = true ↔ ∃ a b, x.place? = some a ∧ y.place? = some b ∧ a < b := by
  unfold lt
  cases x.place? <;> cases y.place? <;> simp

theorem exists_place (h : x.isNan = false) : ∃ a, x.place? = some a := by
  cases x with
  | nan => cases h
  | number negative rank _ => exact ⟨_, rfl⟩

theorem isNan_of_isFinite (h : x.isFinite = true) : x.isNan = false := by
  cases x with
  | nan => cases h
  | number negative rank _ => rfl

theorem le_self (h : x.isNan = false) : x.le x = true := by
  obtain ⟨a, ha⟩ := exists_place h
  exact le_iff.2 ⟨a, a, ha, ha, le_rfl⟩

theorem le_trans (hxy : x.le y = true) (hyz : y.le z = true) : x.le z = true := by
  obtain ⟨a, b, ha, hb, hab⟩ := le_iff.1 hxy
  obtain ⟨b', c, hb', hc, hbc⟩ := le_iff.1 hyz
  obtain rfl : b = b' := Option.some.inj (hb.symm.trans hb')
  exact le_iff.2 ⟨a, c, ha, hc, hab.trans hbc⟩

theorem le_of_lt (h : x.lt y = true) : x.le y = true := by
  obtain ⟨a, b, ha, hb, hab⟩ := lt_iff.1 h
  exact le_iff.2 ⟨a, b, ha, hb, hab.le⟩

/-- numbers that are not one below the other are in the other order -/
theorem le_of_not_lt (hx : x.isNan = false) (hy : y.isNan = false) (h : ¬ x.lt y = true) : y.le x = true := by
  rw [lt_eq_not_le hx hy] at h
  simpa using h

/-- what is at least zero is not below zero -/
theorem AtLeastZero.not_lt_zero (h : AtLeastZero x) : x.lt (zero false) = false := by
  obtain ⟨hsign⟩ := h
  rename_i negative rank hrank
  cases negative with
  | false => simp [lt, place?, zero, ofRank]
  | true => simp [lt, place?, zero, ofRank, hsign rfl]

/-! ## The greatest number -/

theorem isFinite_max (hx : x.isFinite = true) (hy : y.isFinite = true) : (x.max y).isFinite = true := by
  unfold max
  split_ifs
  · exact hy
  · exact hx

theorem le_max (hx : x.isNan = false) (hy : y.isNan = false) : x.le (x.max y) = true ∧ y.le (x.max y) = true := by
  rw [max, hx, Bool.false_or]
  split_ifs with hlt
  · exact ⟨le_of_lt hlt, le_self hy⟩
  · exact ⟨le_self hx, le_of_not_lt hx hy hlt⟩

/-- **The greatest of finite numbers** is finite, and none of them is above it -/
theorem foldl_max {numbers : List (Binary F)} {start : Binary F} (hstart : start.isFinite = true)
    (h : ∀ number ∈ numbers, number.isFinite = true) :
    (numbers.foldl max start).isFinite = true ∧ start.le (numbers.foldl max start) = true ∧
      ∀ number ∈ numbers, number.le (numbers.foldl max start) = true := by
  induction numbers generalizing start with
  | nil => exact ⟨hstart, le_self (isNan_of_isFinite hstart), by simp⟩
  | cons number numbers ih =>
    have hnumber := h number List.mem_cons_self
    obtain ⟨hfinite, hfirst, hrest⟩ :=
      ih (isFinite_max hstart hnumber) fun other hother => h other (List.mem_cons_of_mem number hother)
    obtain ⟨hleft, hright⟩ := le_max (isNan_of_isFinite hstart) (isNan_of_isFinite hnumber)
    exact ⟨hfinite, le_trans hleft hfirst, List.forall_mem_cons.2 ⟨le_trans hright hfirst, hrest⟩⟩

/-! ## Quotients -/

/-- a quotient of numbers without a sign is at least zero, if it is a number -/
theorem atLeastZero_div (hx : x.isNegative = false) (hy : y.isNegative = false) (h : (x.div y).isNan = false) :
    AtLeastZero (x.div y) := by
  cases x with
  | nan => cases h
  | number s a ha =>
    cases y with
    | nan => cases h
    | number t b hb =>
      obtain rfl : s = false := hx
      obtain rfl : t = false := hy
      simp only [div, bne_self_eq_false] at h ⊢
      split_ifs at h ⊢
      · cases h
      · exact .number fun hsign => by cases hsign
      · exact atLeastZero_zero false
      · cases h
      · exact .number fun hsign => by cases hsign
      · exact atLeastZero_ofRatio _ _

/-! ## Numbers above zero -/

/-- a number above zero has no sign, and a rank above that of zero -/
theorem zero_lt_iff : (zero false).lt x = true ↔ ∃ rank h, x = number false rank h ∧ 0 < rank := by
  constructor
  · intro h
    cases x with
    | nan => cases h
    | number negative rank hrank =>
      cases negative with
      | false => exact ⟨rank, hrank, rfl, by simpa [lt, place?, zero, ofRank] using h⟩
      | true =>
        simp [lt, place?, zero, ofRank] at h
        omega
  · rintro ⟨rank, hrank, rfl, hpos⟩
    simpa [lt, place?, zero, ofRank] using hpos

theorem isNegative_of_pos (h : (zero false).lt x = true) : x.isNegative = false := by
  obtain ⟨rank, hrank, rfl, -⟩ := zero_lt_iff.1 h
  rfl

/-- a number without a sign, above zero and below infinity -/
inductive IsPositive : Binary F → Prop
  | number {rank : ℕ} {h : rank ≤ F.infinity} (pos : 0 < rank) (finite : rank < F.infinity) :
    IsPositive (.number false rank h)

theorem isPositive_iff : IsPositive x ↔ x.isFinite = true ∧ (zero false).lt x = true := by
  rw [zero_lt_iff]
  constructor
  · rintro ⟨hpos, hfinite⟩
    exact ⟨decide_eq_true hfinite, _, _, rfl, hpos⟩
  · rintro ⟨hfinite, rank, hrank, rfl, hpos⟩
    exact .number hpos (of_decide_eq_true hfinite)

/-- a number above zero is not raised to zero -/
theorem IsPositive.max_zero (h : IsPositive x) : x.max (zero false) = x := by
  obtain ⟨hpos, -⟩ := h
  rw [max, if_neg]
  simp [isNan, lt, place?, zero, ofRank]

end HostConsole.Binary
