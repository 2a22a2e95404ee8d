import TextArt.Fill.Scatter
import TextArt.Grid.Paint
import TextArt.Number.Rounding
import TextArt.Settings

/-!
# Fill patterns

A pattern paints the blank cells of a grid and never a drawn one. This module has the patterns
themselves, as functions of the place of a cell; `TextArt.Fill.Request` reads their parameters from
documents.
-/

namespace TextArt

/-- The ways to fill. -/
inductive Pattern where
  /-- One character for all blank cells. -/
  | solid
  /-- One character for a random choice of the blank cells. -/
  | dots
  /-- A ramp of characters from light to dark. -/
  | gradient
  /-- One character for every second cell, as on a chessboard. -/
  | diagonal
  /-- Two characters in turn, as on a chessboard. -/
  | crosshatch
  /-- One character for the blank cells of the first and the last row. -/
  | edges
  deriving DecidableEq, Repr

namespace Pattern

/-- Whether the parities of row and column differ. -/
def oddCell (row col : Nat) : Bool := row % 2 != col % 2

/-! ## Gradients -/

/-- The directions of a gradient. -/
inductive Direction where
  /-- From the first column to the last. -/
  | horizontal
  /-- From the first row to the last. -/
  | vertical
  /-- From the middle to the corners. -/
  | radial
  deriving DecidableEq, Repr

/-- A direction by its name. -/
def Direction.ofName? (name : Text) : Option Direction :=
  match name.toString? with
  | some "horizontal" => some horizontal
  | some "vertical" => some vertical
  | some "radial" => some radial
  | _ => none

/-- How far along a gradient a cell is, from zero to one; zero where there is only one row or
column to go along. -/
def Direction.ratio (g : Grid) (row col : Nat) : Direction → Float
  | horizontal =>
    if g.width > 1 then floatOfInt col / floatOfInt (g.width - 1 : Nat) else 0
  | vertical =>
    if g.height > 1 then floatOfInt row / floatOfInt (g.height - 1 : Nat) else 0
  | radial =>
    let centerRow := floatOfInt g.height / 2
    let centerCol := floatOfInt g.width / 2
    distance (floatOfInt row - centerRow) (floatOfInt col - centerCol)
      / distance centerRow centerCol
where
  /-- The length of the diagonal of a rectangle. -/
  distance (x y : Float) : Float := (x * x + y * y).sqrt

/-- The place on a ramp of the given length for a ratio, the nearest one, a half going up. -/
def rampIndex (length : Nat) (ratio : Float) : Nat :=
  let last := length - 1
  (min (max (roundHalfUp (ratio * floatOfInt last)) 0) last).toNat

/-- The text of a gradient at a cell. -/
def gradientInk (g : Grid) (ramp : List Text) (direction : Direction) (reverse : Bool)
    (row col : Nat) : Text :=
  let ratio := direction.ratio g row col
  let ratio := if reverse then 1 - ratio else ratio
  (ramp[rampIndex ramp.length ratio]?).getD ""

/-- Shades the blank cells along a ramp. -/
def paintGradient (g : Grid) (ramp : List Text) (direction : Direction) (reverse : Bool) :
    Outcome Grid :=
  g.paintEach (fun _ _ ↦ true) (gradientInk g ramp direction reverse)

/-! ## The others -/

/-- Paints blank cells with two texts in turn. -/
def paintCrosshatch (g : Grid) (forward back : Text) : Outcome Grid :=
  g.paintEach (fun _ _ ↦ true) fun row col ↦ if oddCell row col then forward else back

/-- Whether a cell is chosen by dots of a density: the number drawn for it is below the density. -/
def dotMask (width : Nat) (field : Array Float) (density : Number) (row col : Nat) : Bool :=
  match field[row * width + col]? with
  | some x => (Number.real x).lt density
  | none => false

/-- Whether a cell is in the first or the last row. -/
def edgeMask (height : Nat) (row _col : Nat) : Bool := row == 0 || row + 1 == height

end Pattern

/-- A pattern under a name. -/
structure Fill where
  /-- Its own name. -/
  name : Text
  /-- What it does, in a few words. -/
  description : Text
  /-- How it fills. -/
  pattern : Pattern
  deriving Repr, DecidableEq

namespace Fill

/-- The fills that come with the library. -/
def standard : List Fill := [
  ⟨"solid", "Fill every blank cell with one character", .solid⟩,
  ⟨"dots", "Random dots with a configurable density", .dots⟩,
  ⟨"gradient", "Horizontal, vertical or radial shading ramp", .gradient⟩,
  ⟨"diagonal", "Checkerboard of one character on alternating cells", .diagonal⟩,
  ⟨"crosshatch", "Alternating forward and back slashes", .crosshatch⟩]

end Fill

end TextArt
