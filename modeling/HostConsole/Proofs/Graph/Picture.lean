/-
What the picture of a graph shows. Painting a point colours its place and nothing else, and every point has a place of
its own (`getElem?_paint`); so the picture drawn shows the points of the curve in the line's colour, and background
everywhere else. All points of the curve are inside the picture, because the rows of the rates are, whatever scaling
makes of the rates.

Result: `redraw_shows`. In every graph that comes about, the picture drawn is the curve through the rates (`Shows`):
which rows of a column are lit is given by the rows of the column and its neighbours alone, and they join up from
column to column.
-/
import HostConsole.Proofs.Graph.Changes
import HostConsole.Proofs.Graph.Curve

namespace HostConsole.RateGraph

variable {graph : RateGraph} {width height : ℕ} {colour : Colour} {pixels : Array Colour} {points : List Point}
  {point : Point} {rows : List ℤ} {x y : ℕ}

/-! ## Places -/

theorem offset?_of_inside (hx : 0 ≤ point.x ∧ point.x < width) (hy : 0 ≤ point.y ∧ point.y < height) :
    offset? width height point = some (point.y.toNat * width + point.x.toNat) := by
  simp [offset?, hx, hy]

theorem place_lt (hx : x < width) (hy : y < height) : y * width + x < width * height := by
  calc y * width + x < (y + 1) * width := by rw [Nat.succ_mul]; omega
    _ ≤ height * width := Nat.mul_le_mul_right width hy
    _ = width * height := Nat.mul_comm _ _

theorem place_inj {x' y' : ℕ} (hx : x < width) (hx' : x' < width) (h : y * width + x = y' * width + x') :
    x = x' ∧ y = y' := by
  have hrow : ∀ {a b : ℕ}, a < width → (b * width + a) / width = b := by
    intro a b ha
    rw [Nat.mul_comm, Nat.mul_add_div (by omega), Nat.div_eq_of_lt ha, Nat.add_zero]
  obtain rfl : y = y' := by
    calc y = (y * width + x) / width := (hrow hx).symm
      _ = (y' * width + x') / width := by rw [h]
      _ = y' := hrow hx'
  exact ⟨Nat.add_left_cancel h, rfl⟩

/-- every point of the picture has a place of its own -/
theorem offset?_eq_some_iff (hx : x < width) (hy : y < height) :
    offset? width height point = some (y * width + x) ↔ point = ⟨x, y⟩ := by
  constructor
  · intro h
    unfold offset? at h
    split_ifs at h with hinside
    simp only [Bool.and_eq_true, decide_eq_true_eq] at hinside
    obtain ⟨hxs, hys⟩ := place_inj (by omega) hx (Option.some.inj h)
    obtain ⟨px, py⟩ := point
    simp only [Point.mk.injEq] at hinside hxs hys ⊢
    omega
  · rintro rfl
    rw [offset?_of_inside ⟨Int.natCast_nonneg x, Int.ofNat_lt.2 hx⟩ ⟨Int.natCast_nonneg y, Int.ofNat_lt.2 hy⟩]
    simp

/-! ## Painting -/

/-- painting a point colours its place, and leaves all others -/
theorem getElem?_paint (hsize : pixels.size = width * height) (hx : x < width) (hy : y < height) :
    (paint width height colour pixels point)[y * width + x]? =
      if point = ⟨x, y⟩ then some colour else pixels[y * width + x]? := by
  have hplace : offset? width height point = some (y * width + x) ↔ point = ⟨x, y⟩ := offset?_eq_some_iff hx hy
  have hlt := place_lt hx hy
  unfold paint
  cases hoffset : offset? width height point with
  | none =>
    rw [hoffset] at hplace
    rw [if_neg (fun h => by simpa using hplace.2 h)]
  | some i =>
    rw [hoffset, Option.some.injEq] at hplace
    simp only [Array.getElem?_setIfInBounds, ← hplace]
    split_ifs <;> first | rfl | omega

/-- painting points colours their places, and leaves all others -/
theorem getElem?_foldl_paint (hsize : pixels.size = width * height) (hx : x < width) (hy : y < height) :
    (points.foldl (paint width height colour) pixels)[y * width + x]? =
      if (⟨x, y⟩ : Point) ∈ points then some colour else pixels[y * width + x]? := by
  induction points generalizing pixels with
  | nil => simp
  | cons point points ih =>
    rw [List.foldl_cons, ih (by rw [size_paint, hsize]), getElem?_paint hsize hx hy]
    by_cases hhead : point = ⟨x, y⟩
    · simp [hhead]
    · simp [hhead, Ne.symm hhead]

theorem pixel?_outside (graph : RateGraph) (h : ¬ (x < graph.width ∧ y < graph.height)) : graph.pixel? x y = none :=
  if_neg (by simpa using h)

/-- the picture drawn: the points of the curve in the colour of the line, and background around them -/
theorem pixel?_redraw (h : Formed graph) (hx : x < graph.width) (hy : y < graph.height) :
    graph.redraw.pixel? x y =
      some (if (⟨x, y⟩ : Point) ∈ graph.curve then graph.line else graph.background) := by
  have hsize : graph.clear.pixels.size = graph.width * graph.height := by rw [size_clear, h.pixels]
  have hblank : graph.clear.pixels[y * graph.width + x]? = some graph.background := by
    have hlt := place_lt hx hy
    rw [← h.pixels] at hlt
    simp [clear, hlt]
  have hinside : (decide (x < graph.width) && decide (y < graph.height)) = true := by simp [hx, hy]
  rw [pixel?, redraw, if_pos hinside, getElem?_foldl_paint hsize hx hy, hblank]
  split_ifs <;> rfl

/-! ## Inside the picture -/

/-- the top row is one of the rows, so that the bounds of a row are in order -/
theorem topRow_inside {rows : ℕ} (hrows : 0 < rows) : 0 ≤ topRow rows ∧ topRow rows < rows := by
  have hword : Int64.maxValue.toInt = 9223372036854775807 := by decide
  unfold topRow
  omega

/-- the row of a rate is one of the rows, whatever the rate and the scale are -/
theorem rowOf_inside (rate scale : Single) {rows : ℕ} (hrows : 0 < rows) :
    0 ≤ rowOf rate scale rows ∧ rowOf rate scale rows < rows := by
  have htop := topRow_inside hrows
  unfold rowOf
  omega

theorem sampleRows_inside (h : Formed graph) :
    ∀ row ∈ graph.sampleRows graph.height, 0 ≤ row ∧ row < graph.height := by
  intro row hrow
  obtain ⟨rate, -, rfl⟩ := List.mem_map.1 hrow
  exact rowOf_inside rate graph.scale (by have := h.height; omega)

/-- the curve stays within the columns and rows that it joins -/
theorem curve_inside {low high : ℤ} (hrows : ∀ row ∈ rows, low ≤ row ∧ row ≤ high)
    (hpoint : point ∈ (segmentsFrom 0 rows).flatMap Segment.points) :
    (0 ≤ point.x ∧ point.x < rows.length) ∧ low ≤ point.y ∧ point.y ≤ high := by
  obtain ⟨x, hx, hlit⟩ := mem_curve_iff.1 hpoint
  have hlt := hlit.lt_length
  refine ⟨by omega, ?_⟩
  obtain ⟨segment, hsegment, hon⟩ := List.mem_flatMap.1 hpoint
  obtain ⟨i, row, next, hrow, hnext, rfl⟩ := mem_segmentsFrom.1 hsegment
  have hfirst := hrows row (List.mem_of_getElem? hrow)
  have hsecond := hrows next (List.mem_of_getElem? hnext)
  have hbetween := Segment.y_between hon
  simp only [Segment.rise] at hbetween
  omega

/-! ## The picture as a whole -/

/-- the picture drawn of a graph is the curve through these rows, one for each of the first columns -/
structure Shows (graph : RateGraph) (rows : List ℤ) : Prop where
  columns : rows.length ≤ graph.width
  rows_inside : ∀ row ∈ rows, 0 ≤ row ∧ row < graph.height
  painted_inside : ∀ point ∈ graph.curve, ∃ i < graph.pixels.size, offset? graph.width graph.height point = some i
  lit : ∀ x y : ℕ, Lit rows x y → graph.redraw.pixel? x y = some graph.line
  unlit : ∀ x < graph.width, ∀ y < graph.height, ¬ Lit rows x y → graph.redraw.pixel? x y = some graph.background
  beyond : ∀ x < graph.width, rows.length ≤ x → ∀ y < graph.height, graph.redraw.pixel? x y = some graph.background
  alone : rows.length < 2 → graph.redraw.pixels = Array.replicate (graph.width * graph.height) graph.background
  run : 2 ≤ rows.length → ∀ (x : ℕ) (row : ℤ), rows[x]? = some row → ∃ low high, 0 ≤ low ∧ low ≤ row ∧ row ≤ high ∧
    high < graph.height ∧ ∀ y, Lit rows x y ↔ low ≤ y ∧ y ≤ high
  meets : ∀ x, x + 1 < rows.length → ∃ y y', Lit rows x y ∧ Lit rows (x + 1) y' ∧ |y - y'| ≤ 1

theorem mem_curve_iff_lit : (⟨x, y⟩ : Point) ∈ graph.curve ↔ Lit (graph.sampleRows graph.height) x y := by
  rw [curve, mem_curve_iff]
  constructor
  · rintro ⟨other, hx, hlit⟩
    obtain rfl : x = other := Int.ofNat.inj hx
    exact hlit
  · exact fun hlit => ⟨x, rfl, hlit⟩

theorem length_sampleRows (graph : RateGraph) (rows : ℕ) : (graph.sampleRows rows).length = graph.samples.length :=
  List.length_map _

/-- a lit row is inside the picture -/
theorem lit_inside (h : Formed graph) {y : ℤ} (hlit : Lit (graph.sampleRows graph.height) x y) :
    x < graph.width ∧ 0 ≤ y ∧ y < graph.height := by
  have hcurve := mem_curve_iff.2 ⟨x, (rfl : (⟨x, y⟩ : Point).x = x), hlit⟩
  have hbound : ∀ row ∈ graph.sampleRows graph.height, 0 ≤ row ∧ row ≤ graph.height - 1 := fun row hrow => by
    have := sampleRows_inside h row hrow
    omega
  obtain ⟨-, hy⟩ := curve_inside hbound hcurve
  have hlt := hlit.lt_length
  have hcolumns := h.samples
  rw [length_sampleRows] at hlt
  simp only at hy
  omega

theorem shows_sampleRows (h : Formed graph) : graph.Shows (graph.sampleRows graph.height) := by
  have hcolumns : (graph.sampleRows graph.height).length ≤ graph.width := by
    rw [length_sampleRows]
    exact h.samples
  have hunlit : ∀ x < graph.width, ∀ y < graph.height, ¬ Lit (graph.sampleRows graph.height) x y →
      graph.redraw.pixel? x y = some graph.background := by
    intro x hx y hy hnot
    rw [pixel?_redraw h hx hy, if_neg (fun hmem => hnot (mem_curve_iff_lit.1 hmem))]
  refine ⟨hcolumns, sampleRows_inside h, ?_, ?_, hunlit, ?_, ?_, ?_, fun x hx => lit_meets hx⟩
  · intro point hpoint
    obtain ⟨x, hx, hlit⟩ := mem_curve_iff.1 hpoint
    have hin := lit_inside h hlit
    refine ⟨_, ?_, offset?_of_inside (by omega) (by omega)⟩
    rw [h.pixels]
    exact place_lt (by omega) (by omega)
  · intro x y hlit
    obtain ⟨hx, -, hy⟩ := lit_inside h hlit
    rw [pixel?_redraw h hx (by exact_mod_cast hy), if_pos (mem_curve_iff_lit.2 hlit)]
  · intro x hx hbeyond y hy
    exact hunlit x hx y hy fun hlit => absurd hlit.lt_length hbeyond.not_gt
  · intro halone
    have hnone : graph.curve = [] := by
      refine List.eq_nil_iff_forall_not_mem.2 fun point hpoint => ?_
      obtain ⟨x, -, hlit⟩ := mem_curve_iff.1 hpoint
      exact absurd hlit.two_le halone.not_ge
    rw [redraw, hnone, List.foldl_nil, clear, h.pixels]
  · intro htwo x row hrow
    obtain ⟨low, high, hlow, hhigh, hrun⟩ := lit_run htwo hrow
    have hlowest := lit_inside h ((hrun low).2 ⟨le_rfl, hlow.trans hhigh⟩)
    have hhighest := lit_inside h ((hrun high).2 ⟨hlow.trans hhigh, le_rfl⟩)
    exact ⟨low, high, hlowest.2.1, hlow, hhigh, hhighest.2.2, hrun⟩

/-- **The picture drawn is the curve through the rates.** In every graph that comes about, whatever scaling makes of the
rates, and with two colours that differ, the points in the colour of the line are the lit rows of each column. -/
theorem redraw_shows (width height : ℕ) (changes : List Change) :
    let graph := (ofSize width height).run changes
    let rows := graph.sampleRows graph.height
    (∀ rate scale, 0 ≤ rowOf rate scale graph.height ∧ rowOf rate scale graph.height < graph.height) ∧
      rows.length = graph.samples.length ∧
      graph.Shows rows ∧
      (graph.background ≠ graph.line → ∀ x y : ℕ, graph.redraw.pixel? x y = some graph.line ↔ Lit rows x y) := by
  intro graph rows
  have h : Formed graph := formed_run (formed_ofSize width height) changes
  have hshows : graph.Shows rows := shows_sampleRows h
  refine ⟨fun rate scale => rowOf_inside rate scale (by have := h.height; omega),
    length_sampleRows graph _, hshows, fun hdistinct x y => ⟨fun hpixel => ?_, hshows.lit x y⟩⟩
  by_contra hnot
  -- a point outside of the picture has no colour at all
  have hinside : x < graph.width ∧ y < graph.height := by
    by_contra houtside
    rw [pixel?_outside graph.redraw houtside] at hpixel
    cases hpixel
  rw [hshows.unlit x hinside.1 y hinside.2 hnot, Option.some.injEq] at hpixel
  exact hdistinct hpixel

/-- a peak and a fall: three rates in four columns -/
def peakGraph : RateGraph :=
  (ofSize 4 8).run [.push (Binary.ofNat 60), .push (Binary.ofNat 0), .push (Binary.ofNat 30)]

theorem redraw_shows_peak : peakGraph.sampleRows 8 = [7, 0, 4] ∧ peakGraph.redraw.pixel? 1 3 = some .lime ∧
    peakGraph.redraw.pixel? 1 4 = some .black ∧ peakGraph.redraw.pixel? 3 0 = some .black ∧
      ∃ low high, low ≤ 0 ∧ 0 ≤ high ∧ ∀ y, Lit [7, 0, 4] 1 y ↔ low ≤ y ∧ y ≤ high := by
  have hrows : peakGraph.sampleRows 8 = [7, 0, 4] := by decide +kernel
  obtain ⟨-, -, hshows, hpixel⟩ := redraw_shows 4 8
    [.push (Binary.ofNat 60), .push (Binary.ofNat 0), .push (Binary.ofNat 30)]
  change peakGraph.Shows (peakGraph.sampleRows 8) at hshows
  change peakGraph.background ≠ peakGraph.line → ∀ x y : ℕ,
    peakGraph.redraw.pixel? x y = some peakGraph.line ↔ Lit (peakGraph.sampleRows 8) x y at hpixel
  rw [hrows] at hshows hpixel
  have hdistinct : peakGraph.background ≠ peakGraph.line := by decide
  have hlit : Lit [7, 0, 4] 1 (3 : ℕ) :=
    ⟨0, rfl, Or.inr ⟨0, 7, rfl, rfl, 3, by decide, by decide, by decide⟩⟩
  have hunlit : ¬ Lit [7, 0, 4] 1 (4 : ℕ) := by
    rintro ⟨row, hrow, ⟨next, hnext, k, h0, hk, hy⟩ | ⟨w, previous, hw, hprevious, k, h0, hk, hy⟩⟩
    · cases hrow
      cases hnext
      rw [show |(4 : ℤ) - 0| / 2 = 2 by decide] at hk
      rw [show (4 - 0 : ℤ).sign = 1 by decide] at hy
      omega
    · obtain rfl : w = 0 := by omega
      cases hrow
      cases hprevious
      rw [show max ((|(0 : ℤ) - 7| + 1) / 2 - 1) 0 = 3 by decide] at hk
      rw [show (7 - 0 : ℤ).sign = 1 by decide] at hy
      omega
  obtain ⟨low, high, -, hlow, hhigh, -, hrun⟩ := hshows.run (by decide) 1 0 rfl
  exact ⟨hrows, (hpixel hdistinct 1 3).2 hlit, hshows.unlit 1 (by decide) 4 (by decide) hunlit,
    hshows.beyond 3 (by decide) (by decide) 0 (by decide), low, high, hlow, hhigh, hrun⟩

end HostConsole.RateGraph
