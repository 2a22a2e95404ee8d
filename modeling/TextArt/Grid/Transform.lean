import TextArt.Grid.Basic

/-!
# Turning, mirroring and scaling

Each transform makes a new grid, and its lemma says which old cell every new cell shows.
-/

namespace TextArt

/-- A clockwise turn. -/
inductive Rotation where
  /-- By 90 degrees. -/
  | quarter
  /-- By 180 degrees. -/
  | half
  /-- By 270 degrees. -/
  | threeQuarters
  deriving DecidableEq, Repr

/-- A way to mirror. -/
inductive Axis where
  /-- Left and right change places. -/
  | horizontal
  /-- Top and bottom change places. -/
  | vertical
  deriving DecidableEq, Repr

/-- A change of size. -/
inductive Scaling where
  /-- Every second row and column is kept, from the first on. -/
  | half
  /-- Every cell becomes a block of two rows and two columns. -/
  | double
  deriving DecidableEq, Repr

/-- One step of a transformation. -/
inductive Transform where
  /-- A clockwise turn. -/
  | rotate (turn : Rotation)
  /-- A reflection. -/
  | mirror (axis : Axis)
  /-- A change of size. -/
  | scale (size : Scaling)
  deriving DecidableEq, Repr

/-- The degrees of a turn. -/
def Rotation.degrees : Rotation → Int
  | quarter => 90
  | half => 180
  | threeQuarters => 270

/-- The name of an axis. -/
def Axis.name : Axis → Text
  | horizontal => "horizontal"
  | vertical => "vertical"

namespace Grid

/-- The grid turned clockwise. -/
def rotate (g : Grid) : Rotation → Grid
  | .quarter => build g.height g.width g.height_pos g.width_pos fun i j ↦
      g.cellAt (g.height - 1 - j) i
  | .half => build g.width g.height g.width_pos g.height_pos fun i j ↦
      g.cellAt (g.height - 1 - i) (g.width - 1 - j)
  | .threeQuarters => build g.height g.width g.height_pos g.width_pos fun i j ↦
      g.cellAt j (g.width - 1 - i)

/-- The grid mirrored along an axis. -/
def mirror (g : Grid) : Axis → Grid
  | .horizontal => build g.width g.height g.width_pos g.height_pos fun i j ↦
      g.cellAt i (g.width - 1 - j)
  | .vertical => build g.width g.height g.width_pos g.height_pos fun i j ↦
      g.cellAt (g.height - 1 - i) j

/-- The grid in another size. Half of an odd size is rounded up. -/
def scale (g : Grid) : Scaling → Grid
  | .half => build ((g.width + 1) / 2) ((g.height + 1) / 2)
      (by have := g.width_pos; omega) (by have := g.height_pos; omega) fun i j ↦
      g.cellAt (2 * i) (2 * j)
  | .double => build (2 * g.width) (2 * g.height)
      (by have := g.width_pos; omega) (by have := g.height_pos; omega) fun i j ↦
      g.cellAt (i / 2) (j / 2)

/-- The grid after one step. -/
def apply (g : Grid) : Transform → Grid
  | .rotate r => g.rotate r
  | .mirror a => g.mirror a
  | .scale s => g.scale s

/-- The grid after several steps, the first one first. -/
def applyAll (g : Grid) (steps : List Transform) : Grid := steps.foldl apply g

/-! ## Cells of the results -/

theorem cellAt_rotate_quarter (g : Grid) {i j : Nat} (hi : i < g.width) (hj : j < g.height) :
    (g.rotate .quarter).cellAt i j = g.cellAt (g.height - 1 - j) i := cellAt_build hi hj

theorem cellAt_rotate_half (g : Grid) {i j : Nat} (hi : i < g.height) (hj : j < g.width) :
    (g.rotate .half).cellAt i j = g.cellAt (g.height - 1 - i) (g.width - 1 - j) :=
  cellAt_build hi hj

theorem cellAt_rotate_threeQuarters (g : Grid) {i j : Nat} (hi : i < g.width)
    (hj : j < g.height) :
    (g.rotate .threeQuarters).cellAt i j = g.cellAt j (g.width - 1 - i) := cellAt_build hi hj

theorem cellAt_mirror_horizontal (g : Grid) {i j : Nat} (hi : i < g.height) (hj : j < g.width) :
    (g.mirror .horizontal).cellAt i j = g.cellAt i (g.width - 1 - j) := cellAt_build hi hj

theorem cellAt_mirror_vertical (g : Grid) {i j : Nat} (hi : i < g.height) (hj : j < g.width) :
    (g.mirror .vertical).cellAt i j = g.cellAt (g.height - 1 - i) j := cellAt_build hi hj

theorem cellAt_scale_half (g : Grid) {i j : Nat} (hi : i < (g.height + 1) / 2)
    (hj : j < (g.width + 1) / 2) :
    (g.scale .half).cellAt i j = g.cellAt (2 * i) (2 * j) := cellAt_build hi hj

theorem cellAt_scale_double (g : Grid) {i j : Nat} (hi : i < 2 * g.height)
    (hj : j < 2 * g.width) :
    (g.scale .double).cellAt i j = g.cellAt (i / 2) (j / 2) := cellAt_build hi hj

end Grid

end TextArt
