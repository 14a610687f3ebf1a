/-
Graphs over time. A graph is made for a size, and then changed by rates and frames, by other colours, by clearing its
picture and by drawing it anew (`Change`), in any order.

Results: `formed_run`, whatever the changes, the sides stay as they were made, the picture has a point for every place,
and there is at most one rate for each column; and `redraw_congr`, a graph is drawn from its sides, colours and rates
alone, whatever its picture was before.
-/
import Mathlib.Tactic
import HostConsole.Graph.Basic

namespace HostConsole.RateGraph

variable {graph : RateGraph}

/-! ## Changes -/

/-- one change of a graph -/
inductive Change where
  | push (rate : Single)
  | pushFrame (seconds : Single)
  | withColours (background line : Colour)
  | clear
  | redraw

/-- the graph after a change -/
def apply (graph : RateGraph) : Change → RateGraph
  | .push rate => graph.push rate
  | .pushFrame seconds => graph.pushFrame seconds
  | .withColours background line => graph.withColours background line
  | .clear => graph.clear
  | .redraw => graph.redraw

/-- the graph after some changes, one after the other -/
def run (graph : RateGraph) (changes : List Change) : RateGraph :=
  changes.foldl apply graph

/-! ## Painting keeps the size of a picture -/

@[simp] theorem size_paint (width height : ℕ) (colour : Colour) (pixels : Array Colour) (point : Point) :
    (paint width height colour pixels point).size = pixels.size := by
  unfold paint
  cases offset? width height point <;> simp

@[simp] theorem size_foldl_paint (width height : ℕ) (colour : Colour) (points : List Point) (pixels : Array Colour) :
    (points.foldl (paint width height colour) pixels).size = pixels.size := by
  induction points generalizing pixels with
  | nil => rfl
  | cons point points ih => rw [List.foldl_cons, ih, size_paint]

@[simp] theorem size_clear (graph : RateGraph) : graph.clear.pixels.size = graph.pixels.size := by
  simp [clear]

@[simp] theorem size_redraw (graph : RateGraph) : graph.redraw.pixels.size = graph.pixels.size := by
  simp [redraw]

/-! ## The shape of a graph -/

/-- both sides are within their limits, the picture has a point for every place, and no column has two rates -/
structure Formed (graph : RateGraph) : Prop where
  width : 2 ≤ graph.width ∧ graph.width ≤ maxSide
  height : 2 ≤ graph.height ∧ graph.height ≤ maxSide
  samples : graph.samples.length ≤ graph.width
  pixels : graph.pixels.size = graph.width * graph.height

theorem clampSide_between (side : ℕ) : 2 ≤ clampSide side ∧ clampSide side ≤ maxSide := by
  unfold clampSide maxSide
  omega

theorem formed_ofSize (width height : ℕ) : Formed (ofSize width height) :=
  ⟨clampSide_between width, clampSide_between height, Nat.zero_le _, Array.size_replicate⟩

theorem formed_push (h : Formed graph) (rate : Single) : Formed (graph.push rate) := by
  have hwidth := h.width
  have hsamples := h.samples
  unfold push
  split_ifs with haccepts hfull
  · refine ⟨h.width, h.height, ?_, h.pixels⟩
    simp only [List.length_append, List.length_drop, List.length_singleton]
    omega
  · refine ⟨h.width, h.height, ?_, h.pixels⟩
    simp only [List.length_append, List.length_singleton]
    omega
  · exact h

theorem formed_pushFrame (h : Formed graph) (seconds : Single) : Formed (graph.pushFrame seconds) := by
  unfold pushFrame
  split_ifs
  · exact formed_push h _
  · exact h

theorem formed_redraw (h : Formed graph) : Formed graph.redraw :=
  ⟨h.width, h.height, h.samples, by rw [size_redraw]; exact h.pixels⟩

theorem formed_apply (h : Formed graph) (change : Change) : Formed (graph.apply change) := by
  cases change with
  | push rate => exact formed_push h rate
  | pushFrame seconds => exact formed_pushFrame h seconds
  | withColours background line => exact ⟨h.width, h.height, h.samples, by simp [apply, withColours, clear, h.pixels]⟩
  | clear => exact ⟨h.width, h.height, h.samples, by simp [apply, clear, h.pixels]⟩
  | redraw => exact formed_redraw h

theorem formed_run (h : Formed graph) (changes : List Change) : Formed (graph.run changes) := by
  induction changes generalizing graph with
  | nil => exact h
  | cons change changes ih => exact ih (formed_apply h change)

/-! ## What a picture is drawn from -/

/-- two graphs that agree in everything but their pictures -/
structure Alike (graph other : RateGraph) : Prop where
  width : other.width = graph.width
  height : other.height = graph.height
  samples : other.samples = graph.samples
  background : other.background = graph.background
  line : other.line = graph.line

/-- the pictures drawn of graphs that are alike are the same, whatever was there before -/
theorem redraw_congr {other : RateGraph} (h : graph.Alike other)
    (hgraph : graph.pixels.size = graph.width * graph.height)
    (hother : other.pixels.size = other.width * other.height) : other.redraw = graph.redraw := by
  have hsize : other.pixels.size = graph.pixels.size := by rw [hother, hgraph, h.width, h.height]
  have hscale : other.scale = graph.scale := by rw [scale, scale, h.samples]
  have hcurve : other.curve = graph.curve := by
    rw [curve, curve, sampleRows, sampleRows, h.samples, hscale, h.height]
  simp only [redraw, clear, hsize, hcurve, h.width, h.height, h.samples, h.background, h.line]

/-- drawing a picture again changes nothing -/
theorem redraw_redraw (graph : RateGraph) : graph.redraw.redraw = graph.redraw := by
  have hcurve : graph.redraw.curve = graph.curve := rfl
  conv_lhs => rw [redraw, clear, size_redraw, hcurve]
  rfl

/-- the picture of a new graph is the picture drawn of it -/
theorem redraw_ofSize (width height : ℕ) : (ofSize width height).redraw = ofSize width height := by
  simp [redraw, clear, ofSize, curve, sampleRows, segmentsFrom]

end HostConsole.RateGraph
