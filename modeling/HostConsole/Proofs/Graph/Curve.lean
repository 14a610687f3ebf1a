/-
The curve of a graph, column by column. A segment from one column to the next leaves in the first column the rows from
its start up to half the way, and in the second one those from its end back to the other half, the middle row falling
to the first column (`mem_points_rise`). So a column has rows from its own towards the next column's, and rows from its
own towards the previous column's (`Lit`).

Results: `mem_curve_iff`, the points of the curve are the lit rows of all columns; `lit_run`, the lit rows of a column
are one run around its own row; and `lit_meets`, the runs of neighbouring columns meet.
-/
import HostConsole.Graph.Basic
import HostConsole.Proofs.Graph.Trace

namespace HostConsole

/-- the rows from one row on towards another, at most so many away -/
def Toward (row other reach y : ℤ) : Prop :=
  ∃ k, 0 ≤ k ∧ k ≤ reach ∧ y = row + (other - row).sign * k

theorem toward_self {row other reach : ℤ} (h : 0 ≤ reach) : Toward row other reach row :=
  ⟨0, le_rfl, h, by ring⟩

theorem toward_zero {row other y : ℤ} : Toward row other 0 y ↔ y = row := by
  constructor
  · rintro ⟨k, h0, hk, rfl⟩
    obtain rfl : k = 0 := le_antisymm hk h0
    ring
  · rintro rfl
    exact toward_self le_rfl

/-- counted from the other end, the rows on the way are the same -/
theorem toward_back (row other k : ℤ) :
    row + (other - row).sign * k = other + (row - other).sign * (|other - row| - k) := by
  have hback : (row - other).sign = -(other - row).sign := by rw [← Int.sign_neg, neg_sub]
  have hway : (other - row).sign * |other - row| = other - row := Int.sign_mul_abs _
  rw [hback]
  linarith

/-- the rows towards another are one run, with the first of them at one end -/
theorem toward_run {row reach : ℤ} (other : ℤ) (h : 0 ≤ reach) :
    ∃ low high, low ≤ row ∧ row ≤ high ∧ ∀ y, Toward row other reach y ↔ low ≤ y ∧ y ≤ high := by
  rcases lt_trichotomy other row with hlt | rfl | hgt
  · have hsign : (other - row).sign = -1 := Int.sign_eq_neg_one_of_neg (by omega)
    refine ⟨row - reach, row, by omega, le_rfl, fun y => ?_⟩
    rw [Toward, hsign]
    exact ⟨fun ⟨k, h0, hk, hy⟩ => by omega, fun hy => ⟨row - y, by omega, by omega, by ring⟩⟩
  · refine ⟨other, other, le_rfl, le_rfl, fun y => ?_⟩
    rw [Toward, sub_self, Int.sign_zero]
    exact ⟨fun ⟨k, _, _, hy⟩ => by omega, fun hy => ⟨0, le_rfl, h, by omega⟩⟩
  · have hsign : (other - row).sign = 1 := Int.sign_eq_one_of_pos (by omega)
    refine ⟨row, row + reach, le_rfl, by omega, fun y => ?_⟩
    rw [Toward, hsign]
    exact ⟨fun ⟨k, h0, hk, hy⟩ => by omega, fun hy => ⟨y - row, by omega, by omega, by ring⟩⟩

/-! ## From one column to the next -/

namespace Segment

/-- the segment from a row of a column to a row of the next -/
def rise (x row next : ℤ) : Segment :=
  ⟨⟨x, row⟩, ⟨x + 1, next⟩⟩

variable {x row next : ℤ} {point : Point}

theorem dx_rise (x row next : ℤ) : (rise x row next).dx = 1 := by
  simp [rise, dx]

theorem dy_rise (x row next : ℤ) : (rise x row next).dy = |next - row| := by
  simp [rise, dy]

theorem sx_rise (x row next : ℤ) : (rise x row next).sx = 1 := by
  simp [rise, sx]

/-- the direction of a segment that is not level -/
theorem sy_rise (h : row ≠ next) : (rise x row next).sy = (next - row).sign := by
  change (if row < next then 1 else -1) = (next - row).sign
  split_ifs with hlt
  · rw [Int.sign_eq_one_of_pos (by omega)]
  · rw [Int.sign_eq_neg_one_of_neg (by omega)]

/-- a segment that rises or falls by at most one row has its ends for points -/
theorem mem_points_flat (h : |next - row| ≤ 1) :
    point ∈ (rise x row next).points ↔ point = ⟨x, row⟩ ∨ point = ⟨x + 1, next⟩ := by
  have hlonger : (rise x row next).longer = 1 := by
    have := (rise x row next).longer_eq
    rw [dx_rise, dy_rise, max_eq_left h] at this
    exact_mod_cast this
  have hlast := (rise x row next).pointAt_longer
  rw [hlonger] at hlast
  rw [points_eq, hlonger]
  simp only [List.range_succ, List.range_zero, List.nil_append, List.map_append, List.map_singleton, List.mem_append,
    List.mem_singleton, pointAt_zero, hlast]
  rfl

/-- a segment that rises or falls by more goes through every row, the first half of them in the first column -/
theorem mem_points_steep (h : 1 < |next - row|) : point ∈ (rise x row next).points ↔ ∃ k : ℤ, 0 ≤ k ∧
    k ≤ |next - row| ∧ point = ⟨if 2 * k ≤ |next - row| then x else x + 1, row + (next - row).sign * k⟩ := by
  have hne : row ≠ next := by
    rintro rfl
    simp at h
  have hlonger := (rise x row next).longer_eq
  rw [dx_rise, dy_rise, max_eq_right h.le] at hlonger
  have hpos : 0 < (rise x row next).longer := by omega
  have hpoint : ∀ k ≤ (rise x row next).longer, (rise x row next).pointAt k =
      ⟨if 2 * (k : ℤ) ≤ |next - row| then x else x + 1, row + (next - row).sign * k⟩ := by
    intro k hk
    have hnear : Nearest |next - row| 1 k ((rise x row next).across k) := by
      have := nearest_across hpos (k : ℤ)
      rwa [hlonger, dx_rise, dy_rise, min_eq_left h.le] at this
    have hacross : (rise x row next).across k = if 2 * (k : ℤ) ≤ |next - row| then 0 else 1 := by
      refine hnear.unique (by omega) ?_
      split_ifs <;> constructor <;> omega
    have halong : ¬ (rise x row next).dy ≤ (rise x row next).dx := by
      rw [dx_rise, dy_rise]
      exact h.not_ge
    rw [pointAt, alongX, alongY, if_neg halong, if_neg halong, place, sx_rise, sy_rise hne, hacross]
    split_ifs <;> simp [rise]
  rw [mem_points]
  constructor
  · rintro ⟨k, hk, rfl⟩
    exact ⟨k, Int.natCast_nonneg k, by omega, hpoint k hk⟩
  · rintro ⟨k, h0, hk, rfl⟩
    obtain ⟨k, rfl⟩ := Int.eq_ofNat_of_zero_le h0
    exact ⟨k, by omega, hpoint k (by omega)⟩

/-- **The points of a segment to the next column.** In the first column they are the rows from the start up to half the
way; in the second they are the rows from the end back to half the way, without its middle. -/
theorem mem_points_rise (x row next : ℤ) : point ∈ (rise x row next).points ↔
    (point.x = x ∧ Toward row next (|next - row| / 2) point.y) ∨
      (point.x = x + 1 ∧ Toward next row (max ((|next - row| + 1) / 2 - 1) 0) point.y) := by
  rcases le_or_gt |next - row| 1 with hflat | hsteep
  · have hlow : |next - row| / 2 = 0 := by
      have := abs_nonneg (next - row)
      omega
    have hhigh : max ((|next - row| + 1) / 2 - 1) 0 = 0 := by omega
    rw [mem_points_flat hflat, hlow, hhigh, toward_zero, toward_zero]
    obtain ⟨px, py⟩ := point
    simp only [Point.mk.injEq]
  · rw [mem_points_steep hsteep]
    constructor
    · rintro ⟨k, h0, hk, rfl⟩
      by_cases hhalf : 2 * k ≤ |next - row|
      · exact Or.inl ⟨if_pos hhalf, k, h0, by omega, rfl⟩
      · exact Or.inr ⟨if_neg hhalf, |next - row| - k, by omega, by omega, toward_back row next k⟩
    · obtain ⟨px, py⟩ := point
      rintro (⟨rfl, k, h0, hk, rfl⟩ | ⟨rfl, k, h0, hk, rfl⟩)
      · exact ⟨k, h0, by omega, by rw [if_pos (by omega)]⟩
      · have hback := toward_back row next (|next - row| - k)
        rw [sub_sub_cancel] at hback
        exact ⟨|next - row| - k, by omega, by omega, by rw [if_neg (by omega), hback]⟩

end Segment

namespace RateGraph

/-! ## Lit rows -/

/-- the row is on the way from the row of a column to that of the next, up to half of it -/
def Ahead (rows : List ℤ) (x : ℕ) (row y : ℤ) : Prop :=
  ∃ next, rows[x + 1]? = some next ∧ Toward row next (|next - row| / 2) y

/-- the row is on the way from the row of a column to that of the previous one, short of half of it -/
def Behind (rows : List ℤ) (x : ℕ) (row y : ℤ) : Prop :=
  ∃ w previous, x = w + 1 ∧ rows[w]? = some previous ∧ Toward row previous (max ((|row - previous| + 1) / 2 - 1) 0) y

/-- a row is lit in a column: it is on the way from the column's own row to that of a neighbour -/
def Lit (rows : List ℤ) (x : ℕ) (y : ℤ) : Prop :=
  ∃ row, rows[x]? = some row ∧ (Ahead rows x row y ∨ Behind rows x row y)

variable {rows : List ℤ} {x : ℕ} {row : ℤ}

theorem mem_segmentsFrom {n : ℕ} {segment : Segment} : segment ∈ segmentsFrom n rows ↔
    ∃ i row next, rows[i]? = some row ∧ rows[i + 1]? = some next ∧
      segment = Segment.rise (n + i : ℕ) row next := by
  induction rows generalizing n with
  | nil => simp [segmentsFrom]
  | cons row rest ih =>
    cases rest with
    | nil => simp [segmentsFrom]
    | cons next rest =>
      rw [segmentsFrom, List.mem_cons, ih]
      constructor
      · rintro (rfl | ⟨i, r, r', hr, hr', rfl⟩)
        · exact ⟨0, row, next, rfl, rfl, rfl⟩
        · exact ⟨i + 1, r, r', hr, hr', by rw [Nat.add_assoc, Nat.add_comm 1]⟩
      · rintro ⟨i, r, r', hr, hr', rfl⟩
        cases i with
        | zero =>
          obtain rfl : row = r := Option.some.inj hr
          obtain rfl : next = r' := Option.some.inj hr'
          exact Or.inl rfl
        | succ i => exact Or.inr ⟨i, r, r', hr, hr', by rw [Nat.add_assoc, Nat.add_comm 1]⟩

/-- **The curve is the lit rows of all columns.** -/
theorem mem_curve_iff {point : Point} :
    point ∈ (segmentsFrom 0 rows).flatMap Segment.points ↔ ∃ x : ℕ, point.x = x ∧ Lit rows x point.y := by
  rw [List.mem_flatMap]
  constructor
  · rintro ⟨segment, hsegment, hpoint⟩
    obtain ⟨i, row, next, hrow, hnext, rfl⟩ := mem_segmentsFrom.1 hsegment
    rw [Nat.zero_add, Segment.mem_points_rise] at hpoint
    rcases hpoint with ⟨hx, hy⟩ | ⟨hx, hy⟩
    · exact ⟨i, hx, row, hrow, Or.inl ⟨next, hnext, hy⟩⟩
    · exact ⟨i + 1, by exact_mod_cast hx, next, hnext, Or.inr ⟨i, row, rfl, hrow, hy⟩⟩
  · rintro ⟨x, hx, row, hrow, ⟨next, hnext, hy⟩ | ⟨w, previous, rfl, hprevious, hy⟩⟩
    · refine ⟨Segment.rise x row next, mem_segmentsFrom.2 ⟨x, row, next, hrow, hnext, by rw [Nat.zero_add]⟩, ?_⟩
      exact (Segment.mem_points_rise _ _ _).2 (Or.inl ⟨hx, hy⟩)
    · refine ⟨Segment.rise w previous row, mem_segmentsFrom.2 ⟨w, previous, row, hprevious, hrow, by rw [Nat.zero_add]⟩,
        ?_⟩
      exact (Segment.mem_points_rise _ _ _).2 (Or.inr ⟨by exact_mod_cast hx, hy⟩)

theorem Lit.lt_length {y : ℤ} (h : Lit rows x y) : x < rows.length := by
  obtain ⟨row, hrow, -⟩ := h
  exact (List.getElem?_eq_some_iff.1 hrow).1

/-- a single column has no neighbour to be joined to -/
theorem Lit.two_le {y : ℤ} (h : Lit rows x y) : 2 ≤ rows.length := by
  have hlt := h.lt_length
  obtain ⟨row, -, ⟨next, hnext, -⟩ | ⟨w, previous, rfl, -, -⟩⟩ := h
  · have := (List.getElem?_eq_some_iff.1 hnext).1
    omega
  · omega

theorem ahead_run (row : ℤ) (hx : x + 1 < rows.length) :
    ∃ low high, low ≤ row ∧ row ≤ high ∧ ∀ y, Ahead rows x row y ↔ low ≤ y ∧ y ≤ high := by
  have hnext : rows[x + 1]? = some rows[x + 1] := List.getElem?_eq_getElem hx
  obtain ⟨low, high, hlow, hhigh, hrun⟩ :=
    toward_run rows[x + 1] (show 0 ≤ |rows[x + 1] - row| / 2 by positivity)
  refine ⟨low, high, hlow, hhigh, fun y => ?_⟩
  simp only [Ahead, hnext, Option.some.injEq, exists_eq_left', hrun]

theorem behind_run (row : ℤ) (hx : x < rows.length) :
    ∃ low high, low ≤ row ∧ row ≤ high ∧ ∀ y, Behind rows (x + 1) row y ↔ low ≤ y ∧ y ≤ high := by
  have hprevious : rows[x]? = some rows[x] := List.getElem?_eq_getElem hx
  obtain ⟨low, high, hlow, hhigh, hrun⟩ :=
    toward_run rows[x] (le_max_right ((|row - rows[x]| + 1) / 2 - 1) 0)
  refine ⟨low, high, hlow, hhigh, fun y => ?_⟩
  simp only [Behind, Nat.add_right_cancel_iff, exists_and_left, exists_eq_left', hprevious, Option.some.injEq, hrun]

theorem not_ahead {y : ℤ} (hx : rows.length ≤ x + 1) : ¬ Ahead rows x row y := by
  rintro ⟨next, hnext, -⟩
  have := (List.getElem?_eq_some_iff.1 hnext).1
  omega

theorem not_behind {y : ℤ} : ¬ Behind rows 0 row y := by
  rintro ⟨w, previous, hw, -⟩
  omega

/-- **The lit rows of a column are one run around its own row.** -/
theorem lit_run (htwo : 2 ≤ rows.length) (hrow : rows[x]? = some row) :
    ∃ low high, low ≤ row ∧ row ≤ high ∧ ∀ y, Lit rows x y ↔ low ≤ y ∧ y ≤ high := by
  have hlt : x < rows.length := (List.getElem?_eq_some_iff.1 hrow).1
  have hlit : ∀ y, Lit rows x y ↔ Ahead rows x row y ∨ Behind rows x row y := fun y => by
    simp only [Lit, hrow, Option.some.injEq, exists_eq_left']
  simp only [hlit]
  cases x with
  | zero =>
    -- the first column has a next one only
    simp only [not_behind, or_false]
    exact ahead_run row (by omega)
  | succ x =>
    obtain ⟨low, high, hlow, hhigh, hbehind⟩ := behind_run row (show x < rows.length by omega)
    by_cases hlast : x + 1 + 1 < rows.length
    · obtain ⟨low', high', hlow', hhigh', hahead⟩ := ahead_run row hlast
      refine ⟨min low low', max high high', by omega, by omega, fun y => ?_⟩
      rw [hahead, hbehind]
      omega
    · refine ⟨low, high, hlow, hhigh, fun y => ?_⟩
      rw [hbehind, or_iff_right (not_ahead (by omega))]

/-- **The runs of neighbouring columns meet.** -/
theorem lit_meets (hx : x + 1 < rows.length) : ∃ y y', Lit rows x y ∧ Lit rows (x + 1) y' ∧ |y - y'| ≤ 1 := by
  have hrow : rows[x]? = some rows[x] := List.getElem?_eq_getElem (by omega)
  have hnext : rows[x + 1]? = some rows[x + 1] := List.getElem?_eq_getElem hx
  generalize rows[x] = row at hrow
  generalize rows[x + 1] = next at hnext
  have habs := abs_nonneg (next - row)
  -- the last row lit on this side of the way, and the last one lit on the other
  refine ⟨row + (next - row).sign * (|next - row| / 2),
    next + (row - next).sign * max ((|next - row| + 1) / 2 - 1) 0,
    ⟨row, hrow, Or.inl ⟨next, hnext, _, by omega, le_rfl, rfl⟩⟩,
    ⟨next, hnext, Or.inr ⟨x, row, rfl, hrow, _, le_max_right _ _, le_rfl, rfl⟩⟩, ?_⟩
  rw [toward_back]
  rcases lt_trichotomy row next with hlt | rfl | hgt
  · rw [Int.sign_eq_neg_one_of_neg (show row - next < 0 by omega), abs_of_pos (show 0 < next - row by omega), abs_le]
    omega
  · simp
  · rw [Int.sign_eq_one_of_pos (show 0 < row - next by omega), abs_of_neg (show next - row < 0 by omega), abs_le]
    omega

end RateGraph

end HostConsole
