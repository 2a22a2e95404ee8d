import TextArt.Grid.Basic

/-!
# Rectangles

A rectangle fills its whole grid; the outline is the first and last row and column.
-/

namespace TextArt.Rectangle

/-- Whether a cell is drawn. -/
def covers (width height : Nat) (filled : Bool) (row col : Nat) : Bool :=
  filled || row == 0 || row + 1 == height || col == 0 || col + 1 == width

/-- A rectangle, either its outline or the whole area. -/
def draw (width height : Nat) (hw : 0 < width) (hh : 0 < height) (filled : Bool) (c : Cell) :
    Grid :=
  Grid.build width height hw hh fun row col ↦
    if covers width height filled row col then c else Cell.blank

end TextArt.Rectangle
