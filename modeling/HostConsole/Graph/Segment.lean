/-
Straight segments on a grid. From its start a segment takes one step at a time towards its end; the error term keeps
the distance from the exact line, and a step goes along an axis whenever the error asks for it, so along both on a
diagonal. The walk ends at the end point.
-/
namespace HostConsole

/-- a point of the grid -/
structure Point where
  x : Int
  y : Int
  deriving DecidableEq, Repr

/-- a segment between two points -/
structure Segment where
  start : Point
  stop : Point
  deriving DecidableEq

namespace Segment

/-- the extent along the first axis -/
def dx (segment : Segment) : Int :=
  (segment.stop.x - segment.start.x).natAbs

/-- the extent along the second axis -/
def dy (segment : Segment) : Int :=
  (segment.stop.y - segment.start.y).natAbs

/-- the direction along the first axis -/
def sx (segment : Segment) : Int :=
  if segment.start.x < segment.stop.x then 1 else -1

/-- the direction along the second axis -/
def sy (segment : Segment) : Int :=
  if segment.start.y < segment.stop.y then 1 else -1

/-- a step along the first axis, if the error asks for it -/
def stepX (segment : Segment) (twice : Int) (point : Point) (error : Int) : Point × Int :=
  if -segment.dy < twice then (⟨point.x + segment.sx, point.y⟩, error - segment.dy) else (point, error)

/-- a step along the second axis, if the error asks for it -/
def stepY (segment : Segment) (twice : Int) (point : Point) (error : Int) : Point × Int :=
  if twice < segment.dx then (⟨point.x, point.y + segment.sy⟩, error + segment.dx) else (point, error)

/-- one step from a point; both axes look at the error before the step -/
def step (segment : Segment) (point : Point) (error : Int) : Point × Int :=
  let (point, error') := segment.stepX (2 * error) point error
  segment.stepY (2 * error) point error'

/-- the walk from a point on, at most `fuel` points long -/
def walk (segment : Segment) : Nat → Point → Int → List Point
  | 0, _, _ => []
  | fuel + 1, point, error =>
    point :: if point = segment.stop then [] else
      let (next, error) := segment.step point error
      walk segment fuel next error

/-- the points of the segment, from its start to its end; no walk is longer than the two extents together -/
def points (segment : Segment) : List Point :=
  segment.walk (segment.dx + segment.dy + 1).toNat segment.start (segment.dx - segment.dy)

end Segment

end HostConsole
