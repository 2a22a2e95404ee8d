import TextArt.Grid.Request

/-!
# Composing shapes on a canvas

A canvas takes shapes one after the other, each at an anchor: its middle or one of its corners. The
canvas keeps a log of its layers. Offsets at a corner point inwards.

A layer remembers what was placed by a mark of any type: the shape itself, or the name of a shape
that may still change.
-/

namespace TextArt

/-! ## Anchors -/

/-- Where a shape is placed on a canvas. -/
inductive Anchor where
  /-- The middles of both lie on each other. -/
  | center
  /-- The upper left corners do. -/
  | topLeft
  /-- The upper right corners do. -/
  | topRight
  /-- The lower left corners do. -/
  | bottomLeft
  /-- The lower right corners do. -/
  | bottomRight
  deriving DecidableEq, Repr

namespace Anchor

/-- All anchors. -/
def all : List Anchor := [center, topLeft, topRight, bottomLeft, bottomRight]

/-- The name of an anchor. -/
def name : Anchor → Text
  | center => "center"
  | topLeft => "topLeft"
  | topRight => "topRight"
  | bottomLeft => "bottomLeft"
  | bottomRight => "bottomRight"

/-- An anchor by its name. -/
def ofName? (s : Text) : Option Anchor := all.find? fun a ↦ a.name == s

/-- An anchor by the name that a request gives. -/
def ofRequest (v : Value) : Outcome Anchor :=
  match v.text?.bind ofName? with
  | some a => .ok a
  | none => .error (.unknownAnchor v (all.map name))

/-- The row and column at which a shape is placed. -/
def origin (canvas shape : Grid) (anchor : Anchor) (offsetRow offsetCol : Int) : Int × Int :=
  let row := match anchor with
    | center => (canvas.center.1 : Int) - shape.center.1 + offsetRow
    | topLeft | topRight => offsetRow
    | bottomLeft | bottomRight => (canvas.height : Int) - shape.height - offsetRow
  let col := match anchor with
    | center => (canvas.center.2 : Int) - shape.center.2 + offsetCol
    | topLeft | bottomLeft => offsetCol
    | topRight | bottomRight => (canvas.width : Int) - shape.width - offsetCol
  (row, col)

/-- The sum of a whole number and a value that has to be a number. -/
def shifted (n : Int) (offset : Value) : Outcome Value := do
  let m ← offset.number
  .ok (m.addInt n).toValue

/-- The difference of a whole number and a value that has to be a number. -/
def inset (n : Int) (offset : Value) : Outcome Value := do
  let m ← offset.number
  .ok (m.subFrom n).toValue

/-- The place of a shape for offsets of any kind. At the top and on the left the offset itself is
the place, whatever it is. -/
def requestOrigin (canvas shape : Grid) (anchor : Anchor) (offsetRow offsetCol : Value) :
    Outcome (Value × Value) := do
  let row ← match anchor with
    | center => shifted ((canvas.center.1 : Int) - shape.center.1) offsetRow
    | topLeft | topRight => .ok offsetRow
    | bottomLeft | bottomRight => inset ((canvas.height : Int) - shape.height) offsetRow
  let col ← match anchor with
    | center => shifted ((canvas.center.2 : Int) - shape.center.2) offsetCol
    | topLeft | bottomLeft => .ok offsetCol
    | topRight | bottomRight => inset ((canvas.width : Int) - shape.width) offsetCol
  .ok (row, col)

end Anchor

/-! ## Canvases -/

/-- One placement. -/
structure Layer (ι : Type) where
  /-- What was placed. -/
  shape : ι
  /-- The anchor. -/
  anchor : Anchor
  /-- How far the shape was moved down, or inwards. -/
  offsetRow : Number
  /-- How far the shape was moved to the right, or inwards. -/
  offsetCol : Number
  /-- The character that took the place of the shape's own. -/
  char : Option Cell
  /-- The row at which the shape was placed. -/
  row : Number
  /-- The column at which the shape was placed. -/
  col : Number

/-- A canvas and the log of what was placed on it, in order. -/
structure Composite (ι : Type) where
  /-- The canvas as it looks now. -/
  canvas : Grid
  /-- The placements, the first one first. -/
  layers : List (Layer ι)

namespace Composite

variable {ι : Type}

/-- A canvas on which nothing has been placed. -/
def ofGrid (canvas : Grid) : Composite ι := ⟨canvas, []⟩

/-- Places a shape and logs it under a mark. -/
def addShape (c : Composite ι) (mark : ι) (shape : Grid) (anchor : Anchor)
    (offsetRow offsetCol : Int) (char : Option Cell) : Composite ι :=
  let (row, col) := anchor.origin c.canvas shape offsetRow offsetCol
  { canvas := c.canvas.overlay shape row col char true
    layers := c.layers ++ [{
      shape := mark, anchor, offsetRow := .whole offsetRow, offsetCol := .whole offsetCol, char,
      row := .whole row, col := .whole col }] }

/-- Places a shape as a request asks. -/
def requestShape (c : Composite ι) (mark : ι) (shape : Grid)
    (anchor offsetRow offsetCol char : Value) : Outcome (Composite ι) := do
  let anchor ← Anchor.ofRequest anchor
  let (row, col) ← anchor.requestOrigin c.canvas shape offsetRow offsetCol
  let canvas ← c.canvas.requestOverlay shape row col char (.bool true)
  let char ← Grid.optionalCell char
  let layer : Layer ι := {
    shape := mark, anchor, offsetRow := ← offsetRow.number, offsetCol := ← offsetCol.number, char,
    row := ← row.number, col := ← col.number }
  .ok { canvas, layers := c.layers ++ [layer] }

end Composite

end TextArt
