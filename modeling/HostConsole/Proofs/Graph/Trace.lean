/-
What the points of a segment are. They trace it (`Traces`): one more than the longer extent, from the start to the
end, which is met once; each step goes towards the end; along an axis that is not the shorter one each place is visited
once; and no point is further than half a step from the exact line.

Result: `points_trace`. The loop of every segment ends, after the points of the segment and no others, and they trace
the segment. The numbers it computes are in proportion to the coordinates of both ends, so that words of 64 bits hold
them all unless the coordinates are near the limits of such words themselves.
-/
import HostConsole.Proofs.Graph.Walk

namespace HostConsole.Segment

variable {segment : Segment} {point : Point} {error : ℤ} {k : ℕ}

/-! ## What the points trace -/

/-- one step of the walk: at most one along each axis, all of it towards the end -/
structure Approaches (segment : Segment) (point next : Point) : Prop where
  moves : point ≠ next
  x_le : |next.x - point.x| ≤ 1
  y_le : |next.y - point.y| ≤ 1
  x_towards : |segment.stop.x - next.x| = |segment.stop.x - point.x| - |next.x - point.x|
  y_towards : |segment.stop.y - next.y| = |segment.stop.y - point.y| - |next.y - point.y|

/-- the points lead straight from the start to the end of a segment -/
structure Traces (segment : Segment) (points : List Point) : Prop where
  length : (points.length : ℤ) = max segment.dx segment.dy + 1
  first : points.head? = some segment.start
  last : points.getLast? = some segment.stop
  stop_once : segment.stop ∉ points.dropLast
  approaches : points.IsChain segment.Approaches
  inside_x : ∀ point ∈ points, min segment.start.x segment.stop.x ≤ point.x ∧
    point.x ≤ max segment.start.x segment.stop.x
  inside_y : ∀ point ∈ points, min segment.start.y segment.stop.y ≤ point.y ∧
    point.y ≤ max segment.start.y segment.stop.y
  each_x : segment.dy ≤ segment.dx → (points.map Point.x).Nodup ∧ ∀ x, x ∈ points.map Point.x ↔
    min segment.start.x segment.stop.x ≤ x ∧ x ≤ max segment.start.x segment.stop.x
  each_y : segment.dx ≤ segment.dy → (points.map Point.y).Nodup ∧ ∀ y, y ∈ points.map Point.y ↔
    min segment.start.y segment.stop.y ≤ y ∧ y ≤ max segment.start.y segment.stop.y
  near : ∀ point ∈ points, 2 * |(|point.x - segment.start.x|) * segment.dy - |point.y - segment.start.y| * segment.dx| ≤
    max segment.dx segment.dy

/-! ### One axis -/

theorem abs_along {a sign i i' : ℤ} (hsign : sign = 1 ∨ sign = -1) (h : i ≤ i') :
    |(a + sign * i') - (a + sign * i)| = i' - i := by
  rcases hsign with rfl | rfl
  · rw [abs_of_nonneg] <;> omega
  · rw [abs_of_nonpos] <;> omega

theorem along_between {a sign i extent : ℤ} (hsign : sign = 1 ∨ sign = -1) (h0 : 0 ≤ i) (hi : i ≤ extent) :
    min a (a + sign * extent) ≤ a + sign * i ∧ a + sign * i ≤ max a (a + sign * extent) := by
  rcases hsign with rfl | rfl <;> omega

/-- steps of one each visit every place from the first to the last once -/
theorem along_once {a sign : ℤ} (hsign : sign = 1 ∨ sign = -1) (extent : ℕ) :
    ((List.range (extent + 1)).map fun k : ℕ => a + sign * k).Nodup ∧
      ∀ v, v ∈ (List.range (extent + 1)).map (fun k : ℕ => a + sign * k) ↔
        min a (a + sign * extent) ≤ v ∧ v ≤ max a (a + sign * extent) := by
  have hinj : Function.Injective fun k : ℕ => a + sign * k := by
    intro k l h
    rcases hsign with rfl | rfl <;> simpa using h
  refine ⟨List.nodup_range.map hinj, fun v => ?_⟩
  rw [List.mem_map]
  constructor
  · rintro ⟨k, hk, rfl⟩
    rw [List.mem_range] at hk
    exact along_between hsign (Int.natCast_nonneg k) (by omega)
  · rintro ⟨h1, h2⟩
    refine ⟨(v - a).natAbs, List.mem_range.2 ?_, ?_⟩
    · rcases hsign with rfl | rfl <;> omega
    · rcases hsign with rfl | rfl <;> omega

/-! ### Both axes -/

theorem along_bounds (hk : k ≤ segment.longer) :
    (0 ≤ segment.alongX k ∧ segment.alongX k ≤ segment.dx) ∧
      0 ≤ segment.alongY k ∧ segment.alongY k ≤ segment.dy := by
  have hx := segment.dx_nonneg
  have hy := segment.dy_nonneg
  rcases Nat.eq_zero_or_pos segment.longer with hzero | hpos
  · obtain rfl : k = 0 := by omega
    rcases segment.along_cases with ⟨-, -, -, halong⟩ | ⟨-, -, -, halong⟩ <;>
      simp [(halong _).1, (halong _).2, across_zero, hx, hy]
  · have hnear := nearest_across hpos (k : ℤ)
    have hlong : (0 : ℤ) < segment.longer := by exact_mod_cast hpos
    have hnonneg := hnear.nonneg hlong segment.shorter_nonneg (Int.natCast_nonneg k)
    have hle := hnear.le_short hlong segment.shorter_nonneg (by exact_mod_cast hk)
    have hkle : (k : ℤ) ≤ segment.longer := by exact_mod_cast hk
    rcases segment.along_cases with ⟨-, hlonger, hshorter, halong⟩ | ⟨-, hlonger, hshorter, halong⟩ <;>
      rw [(halong _).1, (halong _).2] <;> omega

/-- one of the two counts goes on with every step, and neither by more than one -/
theorem along_succ (hk : k < segment.longer) :
    (segment.alongX (k + 1) = segment.alongX k ∨ segment.alongX (k + 1) = segment.alongX k + 1) ∧
      (segment.alongY (k + 1) = segment.alongY k ∨ segment.alongY (k + 1) = segment.alongY k + 1) := by
  have hsucc := across_succ (show 0 < segment.longer by omega) (k : ℤ)
  split_ifs at hsucc <;>
    rcases segment.along_cases with ⟨-, -, -, halong⟩ | ⟨-, -, -, halong⟩ <;>
    simp [(halong _).1, (halong _).2, hsucc]

theorem approaches_pointAt (hk : k < segment.longer) :
    segment.Approaches (segment.pointAt k) (segment.pointAt (k + 1)) := by
  obtain ⟨hx, hy⟩ := along_succ hk
  obtain ⟨⟨-, hbx⟩, -, hby⟩ := along_bounds (show k + 1 ≤ segment.longer from hk)
  push_cast at hbx hby
  have hstop := segment.place_extents
  have hmoves : segment.pointAt k ≠ segment.pointAt (k + 1) := segment.pointAt_injective.ne (by omega)
  have hxle : segment.alongX k ≤ segment.alongX (k + 1) := by omega
  have hyle : segment.alongY k ≤ segment.alongY (k + 1) := by omega
  refine ⟨hmoves, ?_, ?_, ?_, ?_⟩ <;> simp only [← hstop, pointAt, place, Nat.cast_add, Nat.cast_one]
  · rw [abs_along segment.sx_cases hxle]
    omega
  · rw [abs_along segment.sy_cases hyle]
    omega
  · rw [abs_along segment.sx_cases hbx, abs_along segment.sx_cases (hxle.trans hbx), abs_along segment.sx_cases hxle]
    omega
  · rw [abs_along segment.sy_cases hby, abs_along segment.sy_cases (hyle.trans hby), abs_along segment.sy_cases hyle]
    omega

/-- the distance of a point from the exact line, along the shorter axis and in units of the longer extent -/
theorem abs_along_le (hk : k ≤ segment.longer) :
    2 * |segment.alongX k * segment.dy - segment.alongY k * segment.dx| ≤ segment.longer := by
  rcases Nat.eq_zero_or_pos segment.longer with hzero | hpos
  · obtain rfl : k = 0 := by omega
    rcases segment.along_cases with ⟨-, -, -, halong⟩ | ⟨-, -, -, halong⟩ <;>
      simp [(halong _).1, (halong _).2, across_zero]
  · have hnear := (nearest_across hpos (k : ℤ)).abs_le
    rcases segment.along_cases with ⟨-, hlonger, hshorter, halong⟩ | ⟨-, hlonger, hshorter, halong⟩
    · rw [hlonger, hshorter] at hnear
      rwa [(halong _).1, (halong _).2, hlonger]
    · rw [hlonger, hshorter, abs_sub_comm] at hnear
      rwa [(halong _).1, (halong _).2, hlonger]

theorem abs_start (segment : Segment) {i j : ℤ} (hi : 0 ≤ i) (hj : 0 ≤ j) :
    |(segment.place i j).x - segment.start.x| = i ∧ |(segment.place i j).y - segment.start.y| = j := by
  have hx := abs_along (a := segment.start.x) segment.sx_cases hi
  have hy := abs_along (a := segment.start.y) segment.sy_cases hj
  rw [mul_zero, add_zero, sub_zero] at hx hy
  exact ⟨hx, hy⟩

/-- on a diagonal both counts are the same -/
theorem across_diagonal (h : segment.dx = segment.dy) (hk : k ≤ segment.longer) : segment.across k = k := by
  rcases Nat.eq_zero_or_pos segment.longer with hzero | hpos
  · obtain rfl : k = 0 := by omega
    exact segment.across_zero
  · have hlong : (0 : ℤ) < segment.longer := by exact_mod_cast hpos
    have hshort : min segment.dx segment.dy = segment.longer := by rw [longer_eq, h, min_self, max_self]
    refine (nearest_across hpos _).unique hlong ?_
    rw [hshort]
    constructor <;> omega

/-- along an axis that is not the shorter one, the count is that of the steps -/
theorem alongX_eq (h : segment.dy ≤ segment.dx) (k : ℤ) : segment.alongX k = k :=
  if_pos h

theorem alongY_eq (h : segment.dx ≤ segment.dy) (hk : k ≤ segment.longer) : segment.alongY k = k := by
  rcases h.lt_or_eq with hlt | heq
  · exact if_neg hlt.not_ge
  · rw [alongY, if_pos heq.ge, across_diagonal heq hk]

/-! ### All points -/

theorem mem_points : point ∈ segment.points ↔ ∃ k ≤ segment.longer, segment.pointAt k = point := by
  simp only [points_eq, List.mem_map, List.mem_range, Nat.lt_succ_iff]

theorem start_add_dx (segment : Segment) : segment.start.x + segment.sx * segment.dx = segment.stop.x := by
  rw [sx_mul_dx, add_sub_cancel]

theorem start_add_dy (segment : Segment) : segment.start.y + segment.sy * segment.dy = segment.stop.y := by
  rw [sy_mul_dy, add_sub_cancel]

/-- the last point is the end, and no other one is -/
theorem points_eq_snoc (segment : Segment) :
    segment.points = (List.range segment.longer).map segment.pointAt ++ [segment.stop] := by
  rw [points_eq, List.range_succ, List.map_append, List.map_singleton, pointAt_longer]

theorem stop_not_mem (segment : Segment) : segment.stop ∉ (List.range segment.longer).map segment.pointAt := by
  rw [List.mem_map]
  rintro ⟨k, hk, hstop⟩
  rw [← pointAt_longer] at hstop
  exact absurd (segment.pointAt_injective hstop) (List.mem_range.1 hk).ne

theorem x_between (h : point ∈ segment.points) :
    min segment.start.x segment.stop.x ≤ point.x ∧ point.x ≤ max segment.start.x segment.stop.x := by
  obtain ⟨k, hk, rfl⟩ := mem_points.1 h
  obtain ⟨⟨h0, hle⟩, -⟩ := along_bounds hk
  rw [← start_add_dx]
  exact along_between segment.sx_cases h0 hle

theorem y_between (h : point ∈ segment.points) :
    min segment.start.y segment.stop.y ≤ point.y ∧ point.y ≤ max segment.start.y segment.stop.y := by
  obtain ⟨k, hk, rfl⟩ := mem_points.1 h
  obtain ⟨-, h0, hle⟩ := along_bounds hk
  rw [← start_add_dy]
  exact along_between segment.sy_cases h0 hle

/-- along an axis that is not the shorter one, the places are those of steps of one each -/
theorem map_x_points (h : segment.dy ≤ segment.dx) : segment.points.map Point.x =
    (List.range (segment.longer + 1)).map fun k : ℕ => segment.start.x + segment.sx * k := by
  rw [points_eq, List.map_map]
  refine List.map_congr_left fun k _ => ?_
  rw [Function.comp_apply, pointAt, alongX_eq h, place]

theorem map_y_points (h : segment.dx ≤ segment.dy) : segment.points.map Point.y =
    (List.range (segment.longer + 1)).map fun k : ℕ => segment.start.y + segment.sy * k := by
  rw [points_eq, List.map_map]
  refine List.map_congr_left fun k hk => ?_
  have hle : k ≤ segment.longer := Nat.lt_succ_iff.1 (List.mem_range.1 hk)
  rw [Function.comp_apply, pointAt, alongY_eq h hle, place]

/-- the counts of steps are the distances from the start -/
theorem near_line (h : point ∈ segment.points) :
    2 * |(|point.x - segment.start.x|) * segment.dy - |point.y - segment.start.y| * segment.dx| ≤ segment.longer := by
  obtain ⟨k, hk, rfl⟩ := mem_points.1 h
  obtain ⟨⟨hx, -⟩, hy, -⟩ := along_bounds hk
  obtain ⟨hax, hay⟩ := segment.abs_start hx hy
  rw [pointAt, hax, hay]
  exact abs_along_le hk

theorem traces_points (segment : Segment) : segment.Traces segment.points := by
  have hlonger := segment.longer_eq
  refine ⟨?_, ?_, ?_, ?_, ?_, fun point hp => x_between hp, fun point hp => y_between hp, ?_, ?_, ?_⟩
  · rw [points_eq, List.length_map, List.length_range, ← hlonger, Nat.cast_add, Nat.cast_one]
  · rw [points_eq, List.range_succ_eq_map, List.map_cons, List.head?_cons, pointAt_zero]
  · rw [points_eq_snoc, List.getLast?_concat]
  · rw [points_eq_snoc, List.dropLast_concat]
    exact segment.stop_not_mem
  · rw [points_eq, List.isChain_map, List.isChain_range_succ]
    intro k hk
    exact approaches_pointAt hk
  · intro hle
    rw [max_eq_left hle] at hlonger
    rw [map_x_points hle, ← start_add_dx, ← hlonger]
    exact along_once segment.sx_cases segment.longer
  · intro hle
    rw [max_eq_right hle] at hlonger
    rw [map_y_points hle, ← start_add_dy, ← hlonger]
    exact along_once segment.sy_cases segment.longer
  · intro point hp
    rw [← hlonger]
    exact near_line hp

/-- the error that the loop comes with is in proportion to the extents -/
theorem abs_errorAt_le (hk : k ≤ segment.longer) :
    2 * |segment.errorAt (segment.alongX k) (segment.alongY k)| ≤ 3 * segment.longer := by
  have hle := abs_along_le hk
  have hx := segment.dx_nonneg
  have hy := segment.dy_nonneg
  have hlonger := segment.longer_eq
  have hform : segment.errorAt (segment.alongX k) (segment.alongY k) =
      segment.dx - segment.dy - (segment.alongX k * segment.dy - segment.alongY k * segment.dx) := by
    rw [errorAt]
    ring
  have hextents : |segment.dx - segment.dy| ≤ segment.longer := by
    rw [abs_le]
    omega
  rw [hform]
  have := abs_sub (segment.dx - segment.dy) (segment.alongX k * segment.dy - segment.alongY k * segment.dx)
  omega

/-- the numbers that a step from a point may compute -/
def numbers (segment : Segment) (point : Point) (error : ℤ) : List ℤ :=
  [segment.dx, -segment.dy, 2 * error, error - segment.dy, error + segment.dx, error - segment.dy + segment.dx,
    point.x + segment.sx, point.y + segment.sy]

/-- no coordinate of either end is beyond the bound -/
structure Within (segment : Segment) (bound : ℤ) : Prop where
  start_x : |segment.start.x| ≤ bound
  start_y : |segment.start.y| ≤ bound
  stop_x : |segment.stop.x| ≤ bound
  stop_y : |segment.stop.y| ≤ bound

theorem numbers_le {bound : ℤ} (hw : segment.Within bound) (h : segment.Reaches point error)
    (hahead : point ≠ segment.stop) : ∀ n ∈ segment.numbers point error, |n| ≤ 6 * bound := by
  obtain ⟨k, hk, rfl, rfl⟩ := reaches_pointAt h
  have herror := abs_errorAt_le hk
  have hx := x_between (mem_points.2 ⟨k, hk, rfl⟩)
  have hy := y_between (mem_points.2 ⟨k, hk, rfl⟩)
  have hlonger := segment.longer_eq
  have hdx := segment.dx_nonneg
  have hdy := segment.dy_nonneg
  have hpos : 0 < segment.longer := by
    refine Nat.pos_of_ne_zero fun hzero => hahead ?_
    rw [← pointAt_longer, hzero, show k = 0 by omega]
  obtain ⟨h1, h2, h3, h4⟩ := hw
  rw [abs_le] at h1 h2 h3 h4
  -- both extents are at most twice the bound, and one of them is not zero
  have hextents : segment.dx ≤ 2 * bound ∧ segment.dy ≤ 2 * bound := by
    unfold dx dy
    omega
  generalize segment.errorAt _ _ = error at herror
  have hbelow := neg_abs_le error
  have habove := le_abs_self error
  have hsx := segment.sx_cases
  have hsy := segment.sy_cases
  intro n hn
  rw [abs_le]
  simp only [numbers, List.mem_cons, List.not_mem_nil, or_false] at hn
  rcases hn with rfl | rfl | rfl | rfl | rfl | rfl | rfl | rfl <;> omega

/-- **The walk of a segment ends, and its points trace the segment.** The loop ends after the points of the segment and
no others; and with coordinates up to a bound, no number it computes is beyond six times that bound. -/
theorem points_trace (segment : Segment) :
    (∀ points, segment.Walks segment.start (segment.dx - segment.dy) points ↔ points = segment.points) ∧
      segment.Traces segment.points ∧
      ∀ bound, segment.Within bound → ∀ point error, segment.Reaches point error → point ≠ segment.stop →
        ∀ n ∈ segment.numbers point error, |n| ≤ 6 * bound := by
  have hwalks : segment.Walks segment.start (segment.dx - segment.dy) segment.points := by
    rw [points_eq]
    exact segment.walks_start
  refine ⟨fun points => ⟨fun h => h.unique hwalks, ?_⟩, segment.traces_points, ?_⟩
  · rintro rfl
    exact hwalks
  · intro bound hw point error hreaches hahead
    exact numbers_le hw hreaches hahead

/-- a steep segment that goes down to the right, and one step on it -/
theorem points_trace_steep :
    let segment : Segment := ⟨⟨-1, 3⟩, ⟨2, -2⟩⟩
    segment.points = [⟨-1, 3⟩, ⟨0, 2⟩, ⟨0, 1⟩, ⟨1, 0⟩, ⟨1, -1⟩, ⟨2, -2⟩] ∧
      segment.Walks ⟨-1, 3⟩ (-2) segment.points ∧
      (segment.points.map Point.y).Nodup ∧
      ∀ n ∈ segment.numbers ⟨0, 2⟩ (-4), |n| ≤ 18 := by
  intro segment
  obtain ⟨hwalks, htraces, hnumbers⟩ := points_trace segment
  have hstart : segment.Reaches ⟨-1, 3⟩ (-2) := .start
  have hstep : segment.Reaches ⟨0, 2⟩ (-4) := hstart.step (by decide)
  exact ⟨by decide, (hwalks _).2 rfl, (htraces.each_y (by decide)).1,
    hnumbers 3 ⟨by decide, by decide, by decide, by decide⟩ _ _ hstep (by decide)⟩

end HostConsole.Segment
