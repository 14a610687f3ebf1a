/-
Segments as walks on the grid. The walk is a loop without a bound of its own: it steps on until it stands on the end
point (`Walks`). It is followed in closed form: `k` steps along the longer axis, it is at the whole number of steps
along the shorter one that is nearest to the exact share, a half going down (`Nearest`), and the error term is what the
extents make of both counts (`errorAt`). Along the longer axis every step goes on, so the end is met and not passed.

Results: `walks_start`, the loop ends after the points in closed form, and `points_eq`, these are the points of the
segment, whose bound on the walk is never what ends it.
-/
import Mathlib.Tactic
import HostConsole.Graph.Segment

namespace HostConsole

/-! ## Nearest shares -/

/-- of a way `long` along one axis and `short` along the other, `k` steps are done along the first; `m` is the whole
number of steps nearest to where the exact line is along the second, a half going down -/
structure Nearest (long short k m : ℤ) : Prop where
  above : 2 * (m * long) < 2 * (k * short) + long
  below : 2 * (k * short) ≤ 2 * (m * long) + long

namespace Nearest

variable {long short k m n : ℤ}

theorem unique (hlong : 0 < long) (hm : Nearest long short k m) (hn : Nearest long short k n) : m = n := by
  have h1 : m * long < (n + 1) * long := by linarith [hm.above, hn.below]
  have h2 : n * long < (m + 1) * long := by linarith [hn.above, hm.below]
  have h3 := lt_of_mul_lt_mul_right h1 hlong.le
  have h4 := lt_of_mul_lt_mul_right h2 hlong.le
  omega

/-- the share in closed form -/
theorem share (hlong : 0 < long) (short k : ℤ) :
    Nearest long short k ((2 * (k * short) + long - 1) / (2 * long)) := by
  set m := (2 * (k * short) + long - 1) / (2 * long)
  have h1 : m * (2 * long) ≤ 2 * (k * short) + long - 1 := Int.ediv_mul_le _ (by omega)
  have h2 : 2 * (k * short) + long - 1 < (m + 1) * (2 * long) := Int.lt_ediv_add_one_mul_self _ (by omega)
  constructor <;> linarith

theorem zero (hlong : 0 < long) (short : ℤ) : Nearest long short 0 0 := by
  constructor <;> omega

theorem full (hlong : 0 < long) (short : ℤ) : Nearest long short long short := by
  constructor <;> linarith [mul_comm long short]

/-- the next step along the first axis takes one along the second if the line is nearer to the next number by then -/
theorem step (h : Nearest long short k m) (hshort : 0 ≤ short) (hle : short ≤ long) :
    Nearest long short (k + 1) (if (2 * m + 1) * long < 2 * (k + 1) * short then m + 1 else m) := by
  have h1 := h.above
  have h2 := h.below
  split_ifs with hnext
  · constructor <;> linarith
  · constructor <;> linarith

/-- the line is never so far ahead that a step along the first axis has to wait -/
theorem not_ahead (h : Nearest long short k m) (hlong : 0 < long) (hle : short ≤ long) :
    (2 * k + 1) * short < 2 * (m + 1) * long := by
  have h2 := h.below
  rcases hle.lt_or_eq with hlt | rfl
  · linarith
  · -- on a diagonal the two counts agree
    have hle : (2 * k) * short ≤ (2 * m + 1) * short := by linarith
    have hk : 2 * k ≤ 2 * m + 1 := le_of_mul_le_mul_right hle hlong
    have hkm : k ≤ m := by omega
    nlinarith

/-- the distance from the line, both ways -/
theorem abs_le (h : Nearest long short k m) : 2 * |k * short - m * long| ≤ long := by
  have h1 := h.above
  have h2 := h.below
  rcases abs_cases (k * short - m * long) with ⟨ha, -⟩ | ⟨ha, -⟩ <;> rw [ha] <;> linarith

theorem nonneg (h : Nearest long short k m) (hlong : 0 < long) (hshort : 0 ≤ short) (hk : 0 ≤ k) : 0 ≤ m := by
  have h2 := h.below
  have hproduct := mul_nonneg hk hshort
  have hle : 0 * long ≤ (2 * m + 1) * long := by linarith
  have := le_of_mul_le_mul_right hle hlong
  omega

theorem le_short (h : Nearest long short k m) (hlong : 0 < long) (hshort : 0 ≤ short) (hk : k ≤ long) :
    m ≤ short := by
  have h1 := h.above
  have hproduct := mul_le_mul_of_nonneg_right hk hshort
  have hlt : m * long < (short + 1) * long := by linarith
  have := lt_of_mul_lt_mul_right hlt hlong.le
  omega

end Nearest

namespace Segment

variable {segment : Segment} {point : Point} {error : ℤ} {points : List Point} {k : ℕ}

/-! ## The loop -/

/-- the loop from a point on: it ends when it stands on the end point, and steps on otherwise -/
inductive Walks (segment : Segment) : Point → ℤ → List Point → Prop
  | stop (error : ℤ) : Walks segment segment.stop error [segment.stop]
  | step {point : Point} {error : ℤ} {points : List Point} (ahead : point ≠ segment.stop)
    (walks : Walks segment (segment.step point error).1 (segment.step point error).2 points) :
    Walks segment point error (point :: points)

/-- the loop comes to this point with this error -/
inductive Reaches (segment : Segment) : Point → ℤ → Prop
  | start : Reaches segment segment.start (segment.dx - segment.dy)
  | step {point : Point} {error : ℤ} (reached : Reaches segment point error) (ahead : point ≠ segment.stop) :
    Reaches segment (segment.step point error).1 (segment.step point error).2

/-- a loop that ends is followed by the walk, whatever more the walk allows for -/
theorem walk_of_walks (h : segment.Walks point error points) {fuel : ℕ} (hfuel : points.length ≤ fuel) :
    segment.walk fuel point error = points := by
  induction h generalizing fuel with
  | stop error =>
    obtain ⟨fuel, rfl⟩ : ∃ n, fuel = n + 1 := ⟨fuel - 1, by simp at hfuel; omega⟩
    rw [walk, if_pos rfl]
  | step ahead _ ih =>
    rename_i rest _
    obtain ⟨fuel, rfl⟩ : ∃ n, fuel = n + 1 := ⟨fuel - 1, by simp at hfuel; omega⟩
    rw [walk, if_neg ahead]
    exact congrArg _ (ih (Nat.le_of_succ_le_succ hfuel))

theorem Walks.unique {others : List Point} (h : segment.Walks point error points)
    (hother : segment.Walks point error others) : points = others := by
  rw [← walk_of_walks h (le_max_left _ others.length), walk_of_walks hother (le_max_right _ _)]

/-! ## Places by counts of steps -/

theorem dx_nonneg (segment : Segment) : 0 ≤ segment.dx := Int.natCast_nonneg _

theorem dy_nonneg (segment : Segment) : 0 ≤ segment.dy := Int.natCast_nonneg _

theorem sx_mul_dx (segment : Segment) : segment.sx * segment.dx = segment.stop.x - segment.start.x := by
  unfold sx dx
  split_ifs <;> omega

theorem sy_mul_dy (segment : Segment) : segment.sy * segment.dy = segment.stop.y - segment.start.y := by
  unfold sy dy
  split_ifs <;> omega

theorem sx_cases (segment : Segment) : segment.sx = 1 ∨ segment.sx = -1 := by
  unfold sx
  split_ifs <;> simp

theorem sy_cases (segment : Segment) : segment.sy = 1 ∨ segment.sy = -1 := by
  unfold sy
  split_ifs <;> simp

/-- the point so many steps from the start along each axis -/
def place (segment : Segment) (i j : ℤ) : Point :=
  ⟨segment.start.x + segment.sx * i, segment.start.y + segment.sy * j⟩

/-- the error of that point -/
def errorAt (segment : Segment) (i j : ℤ) : ℤ :=
  (j + 1) * segment.dx - (i + 1) * segment.dy

theorem place_extents (segment : Segment) : segment.place segment.dx segment.dy = segment.stop := by
  simp [place, sx_mul_dx, sy_mul_dy]

theorem place_inj {i j i' j' : ℤ} (h : segment.place i j = segment.place i' j') : i = i' ∧ j = j' := by
  simp only [place, Point.mk.injEq, add_right_inj] at h
  obtain ⟨hx, hy⟩ := h
  constructor
  · rcases segment.sx_cases with hs | hs <;> rw [hs] at hx <;> omega
  · rcases segment.sy_cases with hs | hs <;> rw [hs] at hy <;> omega

/-- a step goes on along each axis whose count has fallen behind -/
theorem step_place (segment : Segment) (i j : ℤ) :
    let i' := if (2 * i + 1) * segment.dy < 2 * (j + 1) * segment.dx then i + 1 else i
    let j' := if (2 * j + 1) * segment.dx < 2 * (i + 1) * segment.dy then j + 1 else j
    segment.step (segment.place i j) (segment.errorAt i j) = (segment.place i' j', segment.errorAt i' j') := by
  intro i' j'
  have hx : -segment.dy < 2 * segment.errorAt i j ↔ (2 * i + 1) * segment.dy < 2 * (j + 1) * segment.dx := by
    unfold errorAt
    constructor <;> intro h <;> linarith
  have hy : 2 * segment.errorAt i j < segment.dx ↔ (2 * j + 1) * segment.dx < 2 * (i + 1) * segment.dy := by
    unfold errorAt
    constructor <;> intro h <;> linarith
  simp only [step, stepX, stepY, hx, hy, i', j']
  split_ifs <;> simp only [place, errorAt, mul_add, mul_one, add_assoc, Prod.mk.injEq, true_and] <;> ring

/-! ## The walk in closed form -/

/-- the longer of the two extents -/
def longer (segment : Segment) : ℕ :=
  max (segment.stop.x - segment.start.x).natAbs (segment.stop.y - segment.start.y).natAbs

theorem longer_eq (segment : Segment) : (segment.longer : ℤ) = max segment.dx segment.dy := by
  unfold longer dx dy
  omega

theorem shorter_nonneg (segment : Segment) : 0 ≤ min segment.dx segment.dy :=
  le_min segment.dx_nonneg segment.dy_nonneg

theorem shorter_le_longer (segment : Segment) : min segment.dx segment.dy ≤ segment.longer := by
  rw [longer_eq]
  exact min_le_max

/-- the steps along the shorter axis after `k` steps along the longer one -/
def across (segment : Segment) (k : ℤ) : ℤ :=
  (2 * (k * min segment.dx segment.dy) + segment.longer - 1) / (2 * segment.longer)

/-- the steps along the first axis after `k` steps along the longer one -/
def alongX (segment : Segment) (k : ℤ) : ℤ :=
  if segment.dy ≤ segment.dx then k else segment.across k

/-- the steps along the second axis after `k` steps along the longer one -/
def alongY (segment : Segment) (k : ℤ) : ℤ :=
  if segment.dy ≤ segment.dx then segment.across k else k

/-- the point after `k` steps along the longer axis -/
def pointAt (segment : Segment) (k : ℕ) : Point :=
  segment.place (segment.alongX k) (segment.alongY k)

theorem nearest_across (hpos : 0 < segment.longer) (k : ℤ) :
    Nearest segment.longer (min segment.dx segment.dy) k (segment.across k) :=
  Nearest.share (by exact_mod_cast hpos) _ k

/-- along the longer axis the count is `k`, along the shorter one it is the nearest share -/
theorem along_cases (segment : Segment) :
    (segment.dy ≤ segment.dx ∧ (segment.longer : ℤ) = segment.dx ∧ min segment.dx segment.dy = segment.dy ∧
        ∀ k, segment.alongX k = k ∧ segment.alongY k = segment.across k) ∨
      (segment.dx < segment.dy ∧ (segment.longer : ℤ) = segment.dy ∧ min segment.dx segment.dy = segment.dx ∧
        ∀ k, segment.alongX k = segment.across k ∧ segment.alongY k = k) := by
  rw [longer_eq]
  rcases le_or_gt segment.dy segment.dx with h | h
  · exact Or.inl ⟨h, max_eq_left h, min_eq_right h, fun k => ⟨if_pos h, if_pos h⟩⟩
  · exact Or.inr ⟨h, max_eq_right h.le, min_eq_left h.le, fun k => ⟨if_neg h.not_ge, if_neg h.not_ge⟩⟩

theorem across_succ (hpos : 0 < segment.longer) (k : ℤ) : segment.across (k + 1) =
    if (2 * segment.across k + 1) * segment.longer < 2 * (k + 1) * min segment.dx segment.dy then
      segment.across k + 1 else segment.across k := by
  have hlong : (0 : ℤ) < segment.longer := by exact_mod_cast hpos
  exact (nearest_across hpos (k + 1)).unique hlong
    ((nearest_across hpos k).step segment.shorter_nonneg segment.shorter_le_longer)

/-- one step of the walk in closed form; short of the end, every step goes on along the longer axis -/
theorem step_pointAt (hk : k < segment.longer) :
    segment.step (segment.pointAt k) (segment.errorAt (segment.alongX k) (segment.alongY k)) =
      (segment.pointAt (k + 1), segment.errorAt (segment.alongX (k + 1)) (segment.alongY (k + 1))) := by
  have hpos : 0 < segment.longer := by omega
  have hlong : (0 : ℤ) < segment.longer := by exact_mod_cast hpos
  have hsucc := across_succ hpos (k : ℤ)
  have hahead := (nearest_across hpos k).not_ahead hlong segment.shorter_le_longer
  rw [pointAt, pointAt, step_place]
  push_cast
  rcases segment.along_cases with ⟨-, hlonger, hshorter, halong⟩ | ⟨-, hlonger, hshorter, halong⟩ <;>
    rw [hlonger, hshorter] at hsucc hahead <;>
    simp only [(halong _).1, (halong _).2, if_pos hahead, ← hsucc]

theorem across_zero (segment : Segment) : segment.across 0 = 0 := by
  rcases Nat.eq_zero_or_pos segment.longer with hzero | hpos
  · simp [across, hzero]
  · exact (nearest_across hpos 0).unique (by exact_mod_cast hpos) (Nearest.zero (by exact_mod_cast hpos) _)

theorem across_longer (segment : Segment) : segment.across segment.longer = min segment.dx segment.dy := by
  rcases Nat.eq_zero_or_pos segment.longer with hzero | hpos
  · have hle := segment.shorter_le_longer
    rw [hzero] at hle ⊢
    rw [Nat.cast_zero, across_zero]
    exact segment.shorter_nonneg.antisymm hle
  · exact (nearest_across hpos _).unique (by exact_mod_cast hpos) (Nearest.full (by exact_mod_cast hpos) _)

theorem pointAt_zero (segment : Segment) : segment.pointAt 0 = segment.start := by
  rcases segment.along_cases with ⟨-, -, -, halong⟩ | ⟨-, -, -, halong⟩ <;>
    simp [pointAt, (halong _).1, (halong _).2, across_zero, place]

theorem pointAt_longer (segment : Segment) : segment.pointAt segment.longer = segment.stop := by
  rw [← place_extents, pointAt]
  rcases segment.along_cases with ⟨-, hlonger, hshorter, halong⟩ | ⟨-, hlonger, hshorter, halong⟩ <;>
    rw [(halong _).1, (halong _).2, across_longer, hlonger, hshorter]

theorem pointAt_injective (segment : Segment) : Function.Injective segment.pointAt := by
  intro k l h
  obtain ⟨hx, hy⟩ := place_inj h
  rcases segment.along_cases with ⟨-, -, -, halong⟩ | ⟨-, -, -, halong⟩
  · rw [(halong _).1, (halong _).1] at hx
    exact_mod_cast hx
  · rw [(halong _).2, (halong _).2] at hy
    exact_mod_cast hy

/-- from `n` steps short of the end on, the loop comes through the points in closed form and ends -/
theorem walks_pointAt (segment : Segment) (n : ℕ) : ∀ k, k + n = segment.longer →
    segment.Walks (segment.pointAt k) (segment.errorAt (segment.alongX k) (segment.alongY k))
      ((List.range' k (n + 1)).map segment.pointAt) := by
  induction n with
  | zero =>
    intro k hk
    obtain rfl : k = segment.longer := by omega
    rw [List.range'_one, List.map_singleton, pointAt_longer]
    exact .stop _
  | succ n ih =>
    intro k hk
    have hahead : segment.pointAt k ≠ segment.stop := by
      rw [← pointAt_longer]
      exact segment.pointAt_injective.ne (by omega)
    rw [List.range'_succ, List.map_cons]
    refine .step hahead ?_
    rw [step_pointAt (by omega)]
    exact ih (k + 1) (by omega)

theorem errorAt_zero (segment : Segment) :
    segment.errorAt (segment.alongX (0 : ℕ)) (segment.alongY (0 : ℕ)) = segment.dx - segment.dy := by
  rcases segment.along_cases with ⟨-, -, -, halong⟩ | ⟨-, -, -, halong⟩ <;>
    simp [errorAt, (halong _).1, (halong _).2, across_zero]

theorem walks_start (segment : Segment) : segment.Walks segment.start (segment.dx - segment.dy)
    ((List.range (segment.longer + 1)).map segment.pointAt) := by
  have hwalks := segment.walks_pointAt segment.longer 0 (Nat.zero_add _)
  rwa [pointAt_zero, errorAt_zero, ← List.range_eq_range'] at hwalks

/-- the points of a segment in closed form: the bound on the walk is never what ends it -/
theorem points_eq (segment : Segment) : segment.points = (List.range (segment.longer + 1)).map segment.pointAt := by
  refine walk_of_walks segment.walks_start ?_
  have := segment.longer_eq
  have := segment.dx_nonneg
  have := segment.dy_nonneg
  rw [List.length_map, List.length_range]
  omega

theorem reaches_pointAt (h : segment.Reaches point error) : ∃ k ≤ segment.longer,
    point = segment.pointAt k ∧ error = segment.errorAt (segment.alongX k) (segment.alongY k) := by
  induction h with
  | start => exact ⟨0, Nat.zero_le _, segment.pointAt_zero.symm, segment.errorAt_zero.symm⟩
  | step _ ahead ih =>
    obtain ⟨k, hk, rfl, rfl⟩ := ih
    have hlt : k < segment.longer := by
      refine lt_of_le_of_ne hk ?_
      rintro rfl
      exact ahead segment.pointAt_longer
    rw [step_pointAt hlt]
    exact ⟨k + 1, hlt, rfl, by push_cast; rfl⟩

end Segment

end HostConsole
