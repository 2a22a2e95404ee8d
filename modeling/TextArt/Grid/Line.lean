import TextArt.Grid.Basic
import TextArt.Number.Rounding

/-!
# Digital lines

A line between two cells goes in as many steps as its longer side has. Both coordinates advance by
a fixed binary64 increment per step and are rounded at each point.
-/

namespace TextArt

/-- A place on a grid, or beside it: a row and a column. -/
abbrev Point := Int × Int

/-- A number and its successors under repeated addition. -/
def track (start step : Float) : Nat → List Float
  | 0 => []
  | n + 1 => start :: track (start + step) step n

@[simp] theorem length_track (start step : Float) (n : Nat) : (track start step n).length = n := by
  induction n generalizing start with
  | zero => rfl
  | succ n ih => simp [track, ih]

/-- The points of a line, both ends included; a line of length zero has none. -/
def linePoints (start finish : Point) : List Point :=
  let down := finish.1 - start.1
  let across := finish.2 - start.2
  let steps := max down.natAbs across.natAbs
  if steps = 0 then []
  else
    let rows := track (floatOfInt start.1) (floatOfRatio down steps) (steps + 1)
    let cols := track (floatOfInt start.2) (floatOfRatio across steps) (steps + 1)
    List.zip (rows.map roundHalfUp) (cols.map roundHalfUp)

namespace Grid

/-- Draws a character at some points; those outside the grid are skipped. -/
def drawPoints (g : Grid) (points : List Point) (c : Cell) : Grid :=
  points.foldl (fun g p ↦ g.set p.1 p.2 c) g

/-- Draws a line between two points. -/
def drawLine (g : Grid) (start finish : Point) (c : Cell) : Grid :=
  g.drawPoints (linePoints start finish) c

@[simp] theorem width_drawPoints (g : Grid) (points : List Point) (c : Cell) :
    (g.drawPoints points c).width = g.width := by
  unfold drawPoints
  induction points generalizing g with
  | nil => rfl
  | cons p rest ih => rw [List.foldl_cons, ih, width_set]

@[simp] theorem height_drawPoints (g : Grid) (points : List Point) (c : Cell) :
    (g.drawPoints points c).height = g.height := by
  unfold drawPoints
  induction points generalizing g with
  | nil => rfl
  | cons p rest ih => rw [List.foldl_cons, ih, height_set]

/-- After drawing, exactly the points on the grid show the character. -/
theorem cellAt_drawPoints (g : Grid) (points : List Point) (c : Cell) {i j : Nat}
    (hi : i < g.height) (hj : j < g.width) :
    (g.drawPoints points c).cellAt i j =
      if ((i : Int), (j : Int)) ∈ points then c else g.cellAt i j := by
  unfold drawPoints
  induction points generalizing g with
  | nil => simp
  | cons p rest ih =>
    rw [List.foldl_cons, ih _ (by simpa using hi) (by simpa using hj), cellAt_set g _ _ _ hi hj]
    obtain ⟨row, col⟩ := p
    by_cases hrest : ((i : Int), (j : Int)) ∈ rest
    · simp [hrest]
    · simp [hrest, Prod.ext_iff]

end Grid

end TextArt
