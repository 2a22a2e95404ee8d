import TextArt.Grid.Basic

/-!
# Circles

A circle of radius `r` lies in a square of `2r + 1` cells a side, around its middle cell. A cell is
on the outline when its squared distance from the middle is exactly `r²`, and inside when it is
less.
-/

namespace TextArt.Circle

/-- The squared distance of a cell from the middle, less the squared radius. -/
def excess (radius row col : Nat) : Int :=
  let dx : Int := col - radius
  let dy : Int := row - radius
  dx * dx + dy * dy - radius * radius

/-- Whether a cell is drawn. -/
def covers (radius : Nat) (filled : Bool) (row col : Nat) : Bool :=
  decide (excess radius row col = 0) || filled && decide (excess radius row col < 0)

/-- A circle, either its outline or the whole disc. -/
def draw (radius : Nat) (filled : Bool) (c : Cell) : Grid :=
  (Grid.square radius).mapCells fun row col old ↦ if covers radius filled row col then c else old

end TextArt.Circle
