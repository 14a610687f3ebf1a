/-
The rate graph: the newest frame rates, one for each column, and a picture of them. A rate counts when it is finite
and not below zero; the oldest rate gives way when every column is taken.

The picture is a grid of colours, row after row from the bottom. Drawing it anew clears it and joins the rows of
neighbouring rates by segments. Rows are scaled so that the greatest rate kept is at the top; without a rate above
zero the scale is that of 120 frames per second. As plain text the graph is a star for each of the newest rates, from
the top row down, without blanks at the ends of lines.
-/
import HostConsole.Binary.Arithmetic
import HostConsole.Graph.Segment
import HostConsole.Text.Blank

namespace HostConsole

/-- a colour with its opacity -/
structure Colour where
  red : UInt8
  green : UInt8
  blue : UInt8
  alpha : UInt8
  deriving DecidableEq

namespace Colour

/-- opaque black -/
def black : Colour := ⟨0, 0, 0, 255⟩

/-- opaque green -/
def lime : Colour := ⟨0, 255, 0, 255⟩

end Colour

/-- the newest frame rates and their picture -/
structure RateGraph where
  width : Nat
  height : Nat
  samples : List Single
  pixels : Array Colour
  background : Colour
  line : Colour

namespace RateGraph

/-- no side of a graph is longer -/
def maxSide : Nat := 4096

/-- the scale of a graph without rates above zero -/
def fallbackScale : Single := Binary.ofNat 120

/-- the side nearest to the one asked for -/
def clampSide (side : Nat) : Nat :=
  max 2 (min maxSide side)

/-- a graph without rates -/
def ofSize (width height : Nat) : RateGraph :=
  let width := clampSide width
  let height := clampSide height
  ⟨width, height, [], Array.replicate (width * height) .black, .black, .lime⟩

/-- every point of the picture turned to background -/
def clear (graph : RateGraph) : RateGraph :=
  { graph with pixels := Array.replicate graph.pixels.size graph.background }

/-- other colours; the picture is cleared -/
def withColours (graph : RateGraph) (background line : Colour) : RateGraph :=
  clear { graph with background, line }

/-! ## Rates -/

/-- a rate that counts -/
def accepts (rate : Single) : Bool :=
  rate.isFinite && !rate.lt (Binary.zero false)

/-- add a rate, if it counts -/
def push (graph : RateGraph) (rate : Single) : RateGraph :=
  if accepts rate then
    let kept := if graph.width ≤ graph.samples.length then graph.samples.drop 1 else graph.samples
    { graph with samples := kept ++ [rate] }
  else graph

/-- add the rate of a frame that took so many seconds; a frame has to take time -/
def pushFrame (graph : RateGraph) (seconds : Single) : RateGraph :=
  if (Binary.zero false).lt seconds then graph.push ((Binary.ofNat 1).div seconds) else graph

/-- the greatest rate kept, or the fallback if none is above zero -/
def scale (graph : RateGraph) : Single :=
  let greatest := graph.samples.foldl Binary.max (Binary.zero false)
  if (Binary.zero false).lt greatest then greatest else fallbackScale

/-! ## Rows -/

/-- the top row, in words of 64 bits -/
def topRow (rows : Nat) : Int :=
  min (rows : Int) Int64.maxValue.toInt - 1

/-- the row of a rate on a scale: its share of the rows, cut to a whole number and kept inside -/
def rowOf (rate scale : Single) (rows : Nat) : Int :=
  max 0 (min (topRow rows) ((rate.div scale).mul (Binary.ofNat rows)).toInt64)

/-- the rows of all rates kept -/
def sampleRows (graph : RateGraph) (rows : Nat) : List Int :=
  graph.samples.map (rowOf · graph.scale rows)

/-! ## The picture -/

/-- the place of a point in the picture, if it is inside -/
def offset? (width height : Nat) (point : Point) : Option Nat :=
  if 0 ≤ point.x && point.x < width && 0 ≤ point.y && point.y < height then
    some (point.y.toNat * width + point.x.toNat)
  else none

/-- paint one point; points outside are left out -/
def paint (width height : Nat) (colour : Colour) (pixels : Array Colour) (point : Point) : Array Colour :=
  match offset? width height point with
  | some i => pixels.setIfInBounds i colour
  | none => pixels

/-- the segments that join the rows of neighbouring columns, the first column being `x` -/
def segmentsFrom (x : Nat) : List Int → List Segment
  | y :: y' :: rest => ⟨⟨x, y⟩, ⟨x + 1, y'⟩⟩ :: segmentsFrom (x + 1) (y' :: rest)
  | _ => []

/-- the points of the curve through all rates kept -/
def curve (graph : RateGraph) : List Point :=
  (segmentsFrom 0 (graph.sampleRows graph.height)).flatMap Segment.points

/-- draw the picture anew -/
def redraw (graph : RateGraph) : RateGraph :=
  let blank := graph.clear
  { graph with pixels := graph.curve.foldl (paint graph.width graph.height graph.line) blank.pixels }

/-- the colour of a point of the picture -/
def pixel? (graph : RateGraph) (x y : Nat) : Option Colour :=
  if x < graph.width && y < graph.height then graph.pixels[y * graph.width + x]? else none

/-! ## Plain text -/

/-- one line of text: a star in each column whose rate is in the row -/
def plainLine (levels : List Int) (row : Nat) : String :=
  String.ofList (Text.trimEndChars (levels.map fun level => if level = (row : Int) then '*' else ' '))

/-- the newest rates, at most `columns` of them, on so many rows -/
def plain (graph : RateGraph) (columns rows : Nat) : String :=
  let rows := max rows 1
  let newest := graph.samples.drop (graph.samples.length - columns)
  let levels := newest.map (rowOf · graph.scale rows)
  "\n".intercalate ((List.range rows).reverse.map (plainLine levels))

end RateGraph

end HostConsole
