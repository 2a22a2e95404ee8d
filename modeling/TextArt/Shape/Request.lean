import TextArt.Glyph
import TextArt.Grid.Request
import TextArt.Shape.Circle
import TextArt.Shape.Polygon
import TextArt.Shape.Rectangle

/-!
# Requests to draw shapes

A shape is asked for by its name and named parameters, which are values of any kind.
-/

namespace TextArt

/-- The kinds of shapes. -/
inductive ShapeKind where
  /-- A circle in its square. -/
  | circle
  /-- A rectangle. -/
  | rectangle
  /-- A regular polygon in the square of its circle. -/
  | polygon
  /-- A text in block glyphs. -/
  | text
  deriving DecidableEq, Repr

namespace ShapeKind

/-- All kinds. -/
def all : List ShapeKind := [circle, rectangle, polygon, text]

/-- The name of a kind. -/
def name : ShapeKind → Text
  | circle => "circle"
  | rectangle => "rectangle"
  | polygon => "polygon"
  | text => "text"

/-- A kind by its name. -/
def ofName? (s : Text) : Option ShapeKind := all.find? fun k ↦ k.name == s

/-- A kind by the name that a request gives. -/
def ofRequest (v : Value) : Outcome ShapeKind :=
  if v.isName then
    match v.text?.bind ofName? with
    | some kind => .ok kind
    | none => .error (.unknownShape v (all.map name))
  else .error .wrongType

end ShapeKind

namespace Shape

/-- The character that shapes are drawn with unless a request says otherwise. -/
def defaultChar : Value := .str "*"

/-- The side of the square around a circle of the given radius, as a request gives it: a positive
whole number. The radius is that of the square. -/
def squareRadius (radius : Value) : Outcome Nat := do
  match ← radius.number with
  | .real x =>
    let side := Value.float (x * 2 + 1)
    if (Number.real (x * 2 + 1)).le (.whole 0) then .error (.badDimensions side side)
    else .error .wrongType
  | n =>
    let r := n.int?.getD 0
    if r < 0 then .error (.badDimensions (.int (r * 2 + 1)) (.int (r * 2 + 1))) else .ok r.toNat

/-- A circle. -/
def requestCircle (params : Fields) : Outcome Grid := do
  params.accept ["radius"] ["filled", "char"]
  let cell ← (params.argument "char" defaultChar).cell
  let radius ← squareRadius (params.argument "radius" .null)
  .ok (Circle.draw radius (params.argument "filled" (.bool false)).truthy cell)

/-- A rectangle. -/
def requestRectangle (params : Fields) : Outcome Grid := do
  params.accept ["width", "height"] ["char", "filled"]
  let canvas ← Grid.requestNew (params.argument "width" .null) (params.argument "height" .null)
  let cell ← (params.argument "char" defaultChar).cell
  .ok (Rectangle.draw canvas.width canvas.height canvas.width_pos canvas.height_pos
    (params.argument "filled" (.bool false)).truthy cell)

/-- A regular polygon. -/
def requestPolygon (params : Fields) : Outcome Grid := do
  params.accept ["sides", "radius"] ["filled", "char"]
  let cell ← (params.argument "char" defaultChar).cell
  let given := params.argument "sides" .null
  let sides ← given.number
  if sides.lt (.whole 3) then .error (.tooFewSides given)
  else
    let radius ← squareRadius (params.argument "radius" .null)
    match sides.int? with
    | some sides =>
      Polygon.attempt sides.toNat radius (params.argument "filled" (.bool false)).truthy cell
    | none => .error .wrongType

/-- A text drawn with a glyph map. -/
def requestBanner (glyphs : GlyphMap) (text : Value) : Outcome Grid :=
  if text.truthy then do
    let parts ← text.parts
    match ← parts.mapM (fun part ↦ do
        match part with
        | .str s => glyphs.glyph s
        | _ => (.error .missingPart : Outcome Grid)) with
    | [] => .error (.emptyText text)
    | first :: rest => rest.foldlM Grid.rightAppend first
  else .error (.emptyText text)

/-- A text drawn with the standard glyphs. No other glyphs can be given by a document. -/
def requestText (params : Fields) : Outcome Grid := do
  params.accept ["text"] ["glyphs"]
  let text := params.argument "text" .null
  match params.argument "glyphs" .null with
  | .null => requestBanner .standard text
  | _ =>
    if text.truthy then do
      let _ ← text.parts
      .error .missingPart
    else .error (.emptyText text)

/-- A shape of a kind. -/
def requestKind (kind : ShapeKind) (params : Fields) : Outcome Grid :=
  match kind with
  | .circle => requestCircle params
  | .rectangle => requestRectangle params
  | .polygon => requestPolygon params
  | .text => requestText params

/-- A shape by its name. -/
def request (shape params : Value) : Outcome Grid := do
  let kind ← ShapeKind.ofRequest shape
  let params ← params.arguments
  requestKind kind params

end Shape

end TextArt
