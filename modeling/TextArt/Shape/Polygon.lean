import TextArt.Grid.Line

/-!
# Regular polygons

A polygon is inscribed in the circle of the same radius, its first vertex on the right. The outline
joins neighbouring vertices by digital lines. A filled polygon is filled row by row between pairs of
crossings: an edge crosses a row when the row is at or below its upper end and above its lower end,
so a vertex that two edges share counts once.
-/

namespace TextArt.Polygon

/-- The ratio of a circle's circumference to its diameter, to binary64 precision. -/
def pi : Float := 3.141592653589793

/-- The vertices of a regular polygon around the given middle row and column. -/
def vertices (sides : Nat) (radius center : Int) : List Point :=
  (List.range sides).map fun (i : Nat) ↦
    let angle := 2 * pi * floatOfInt i / floatOfInt sides
    (roundHalfUp (floatOfInt center + floatOfInt radius * angle.sin),
      roundHalfUp (floatOfInt center + floatOfInt radius * angle.cos))

/-- The edges of a closed outline. -/
def edges (outline : List Point) : List (Point × Point) :=
  List.zip outline (outline.drop 1 ++ outline.take 1)

/-- Whether an edge crosses a row. -/
def crosses (row : Int) (edge : Point × Point) : Bool :=
  decide (edge.1.1 ≠ edge.2.1 ∧ min edge.1.1 edge.2.1 ≤ row ∧ row < max edge.1.1 edge.2.1)

/-- The column at which an edge crosses a row. -/
def crossingCol (row : Int) (edge : Point × Point) : Int :=
  let ((r1, c1), (r2, c2)) := edge
  let t := floatOfRatio ((row - r1) * (r2 - r1).sign) (r2 - r1).natAbs
  roundHalfUp (floatOfInt c1 + t * floatOfInt (c2 - c1))

/-- The columns at which an outline crosses a row, from the left. -/
def crossings (outline : List Point) (row : Int) : List Int :=
  (((edges outline).filter (crosses row)).map (crossingCol row)).mergeSort

/-- The items of a list two by two; an odd one at the end is left out. -/
def pairs : List Int → List (Int × Int)
  | a :: b :: rest => (a, b) :: pairs rest
  | _ => []

/-- The points of a row between the first and second crossing, the third and fourth, and so on. -/
def spans (outline : List Point) (width : Nat) (row : Int) : List Point :=
  (pairs (crossings outline row)).flatMap fun (left, right) ↦
    (List.range width).filterMap fun (col : Nat) ↦
      if left ≤ (col : Int) ∧ (col : Int) ≤ right then some (row, (col : Int)) else none

/-- Fills the inside of an outline. -/
def fill (g : Grid) (outline : List Point) (c : Cell) : Grid :=
  g.drawPoints ((List.range g.height).flatMap fun (row : Nat) ↦ spans outline g.width (row : Int)) c

/-- Draws the edges of an outline. -/
def stroke (g : Grid) (outline : List Point) (c : Cell) : Grid :=
  (edges outline).foldl (fun g edge ↦ g.drawLine edge.1 edge.2 c) g

/-- A polygon, either its outline or the whole area. -/
def draw (sides radius : Nat) (filled : Bool) (c : Cell) : Grid :=
  let outline := vertices sides radius radius
  let drawn := stroke (Grid.square radius) outline c
  if filled then fill drawn outline c else drawn

/-- Whether the angle of a vertex can be computed: it is a quotient by the number of sides, which
has to be in the range of doubles. -/
def hasAngles (sides : Nat) : Bool := (Binary64.ofInt? sides).isSome

/-- Draws a polygon, unless it has too many sides. -/
def attempt (sides radius : Nat) (filled : Bool) (c : Cell) : Outcome Grid :=
  if hasAngles sides then .ok (draw sides radius filled c) else .error .overflow

end TextArt.Polygon
