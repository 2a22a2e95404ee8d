import TextArt.Composite
import TextArt.Json.Encoding
import TextArt.Recipe.FillSpec
import TextArt.Recipe.Operation
import TextArt.Script

/-!
# Compositions

A composition declares a canvas and the shapes on it, the lowest one first. `Composition.check`
checks a document, `Composition.draw` draws a checked composition, and `Composition.drawDocument`
draws a document as it is.
-/

namespace TextArt

open Schema

/-- Where a shape is placed. -/
structure Placement where
  /-- The anchor. -/
  anchor : Anchor
  /-- How far it is moved down, or inwards. -/
  offsetRow : Int
  /-- How far it is moved to the right, or inwards. -/
  offsetCol : Int
  /-- The character that takes the place of the shape's own. -/
  char : Option Char

/-- A shape of a composition. -/
structure PlacedShape where
  /-- The shape. -/
  shape : ShapeParams
  /-- Where it is placed. -/
  placement : Placement
  /-- How it is filled. -/
  fill : FillSpec

/-- A checked composition. -/
structure Composition where
  /-- The number of columns of the canvas. -/
  width : Positive
  /-- The number of rows of the canvas. -/
  height : Positive
  /-- The shapes, the lowest one first. -/
  shapes : List PlacedShape

namespace Composition

/-! ## Checking -/

/-- The names of the anchors, for a check. -/
def anchorChoices : List (Text × Anchor) := Anchor.all.map fun a ↦ (a.name, a)

/-- The placement in the middle. -/
def centered : Placement := ⟨.center, 0, 0, none⟩

/-- The fields of a placement. -/
def placementKeys : List Key :=
  [.of "anchor", ⟨"offsetRow", "offset_row"⟩, ⟨"offsetCol", "offset_col"⟩, .of "char"]

/-- Checks a placement; all its fields may be left out. -/
def checkPlacement (v : Value) : Checked Placement := do
  let fields ← record "Placement" v
  let (anchor, offsetRow, offsetCol, char, _) ←
    both (optional fields (.of "anchor") .center (oneOf anchorChoices)) <|
    both (optional fields ⟨"offsetRow", "offset_row"⟩ 0 anyInt) <|
    both (optional fields ⟨"offsetCol", "offset_col"⟩ 0 anyInt) <|
    both (optional fields (.of "char") none (nullable oneChar)) <|
    noOthers fields placementKeys
  .ok ⟨anchor, offsetRow, offsetCol, char⟩

/-- The fields of a shape. -/
def shapeKeys : List Key :=
  [.of "type", .of "params", .of "placement", ⟨"fillPattern", "fill_pattern"⟩,
    ⟨"fillParams", "fill_params"⟩]

/-- Checks a shape. -/
def checkShape (registry : FillRegistry) (v : Value) : Checked PlacedShape := do
  let fields ← record "ShapeSpec" v
  let (kind, params, placement, pattern, fillParams, _) ←
    both (required fields (.of "type") (oneOf ShapeKind.choices)) <|
    both (optional fields (.of "params") [] anyObject) <|
    both (optional fields (.of "placement") centered checkPlacement) <|
    both (optional fields ⟨"fillPattern", "fill_pattern"⟩ none (nullable anyText)) <|
    both (optional fields ⟨"fillParams", "fill_params"⟩ [] anyObject) <|
    noOthers fields shapeKeys
  let shape ← ShapeParams.check kind params
  let fill ← FillSpec.check registry pattern fillParams
  .ok ⟨shape, placement, fill⟩

/-- Checks a composition document. -/
def check (registry : FillRegistry) (v : Value) : Checked Composition := do
  let fields ← record "ShapeRecipe" v
  let (width, height, shapes, _) ←
    both (required fields (.of "width") (intFrom 1)) <|
    both (required fields (.of "height") (intFrom 1)) <|
    both (optional fields (.of "shapes") [] (listOf (checkShape registry))) <|
    noOthers fields [.of "width", .of "height", .of "shapes"]
  .ok ⟨width, height, shapes⟩

/-- Reads and checks a composition document. -/
def parse (registry : FillRegistry) (source : Json.Source) : Outcome Composition := do
  let v ← source.load "shape recipe"
  (check registry v).outcome "shape recipe"

/-! ## Spelling out -/

/-- A placement as a document gives it. -/
def dumpPlacement (p : Placement) : Value :=
  .object [("anchor", .str p.anchor.name), ("offsetRow", .int p.offsetRow),
    ("offsetCol", .int p.offsetCol),
    ("char", .ofText? (p.char.map fun c ↦ Text.singleton (.char c)))]

/-- A shape as a document gives it. -/
def dumpShape (s : PlacedShape) : Value :=
  .object (("type", .str s.shape.kind.name) :: ("params", .object s.shape.dump)
    :: ("placement", dumpPlacement s.placement) :: s.fill.dump)

/-- A composition as a document gives it, all its fields spelled out. -/
def dump (c : Composition) : Value :=
  .object [("width", .int c.width.val), ("height", .int c.height.val),
    ("shapes", .list (c.shapes.map dumpShape))]

/-! ## Drawing -/

/-- Draws, fills and places the shape of the given number. -/
def place (context : Script.Context) (index : Nat) (canvas : Composite Grid) (s : PlacedShape) :
    Outcome (Composite Grid) := do
  let drawn ← s.shape.draw
  let filled ← s.fill.apply context.fills (context.fillSettings index) drawn
  let p := s.placement
  .ok (canvas.addShape filled filled p.anchor p.offsetRow p.offsetCol (p.char.map .char))

/-- Draws, fills and places some shapes, the first of which has the given number. -/
def placeFrom (context : Script.Context) (index : Nat) (canvas : Composite Grid) :
    List PlacedShape → Outcome (Composite Grid)
  | [] => .ok canvas
  | s :: rest => do
    let canvas ← place context index canvas s
    placeFrom context (index + 1) canvas rest

/-- Draws a checked composition. -/
def draw (context : Script.Context) (c : Composition) : Outcome (Composite Grid) :=
  let canvas := Grid.blank c.width.val c.height.val c.width.property c.height.property
  placeFrom context 0 (.ofGrid canvas) c.shapes

/-! ## Drawing documents as they are -/

/-- The parameters of a shape; those that are null count as not given. -/
def presentParams (params : Value) : Outcome Value :=
  match params.orElse (.object []) with
  | .object fields => .ok (.object (fields.filter fun f ↦ !(f.2 matches .null)))
  | _ => .error .missingPart

/-- Draws, fills and places the shape of the given number of a document. -/
def placeDocument (context : Script.Context) (index : Nat) (canvas : Composite Grid)
    (entry : Value) : Outcome (Composite Grid) := do
  let kind ← entry.need "type"
  let params ← entry.ask "params" .null
  let params ← presentParams params
  let drawn ← Shape.request kind params
  let pattern ← entry.ask "fillPattern" .null
  let filled ← if pattern.truthy then do
      let params ← entry.ask "fillParams" .null
      let params ← (params.orElse (.object [])).arguments
      context.fills.apply (context.fillSettings index) pattern drawn params
    else .ok drawn
  let placement ← entry.ask "placement" .null
  let placement := placement.orElse (.object [])
  let anchor ← placement.ask "anchor" (.str "center")
  let offsetRow ← placement.ask "offsetRow" (.int 0)
  let offsetCol ← placement.ask "offsetCol" (.int 0)
  let char ← placement.ask "char" .null
  canvas.requestShape filled filled anchor offsetRow offsetCol char

/-- Draws, fills and places some shapes of a document, the first of which has the given number. -/
def placeDocumentFrom (context : Script.Context) (index : Nat) (canvas : Composite Grid) :
    List Value → Outcome (Composite Grid)
  | [] => .ok canvas
  | entry :: rest => do
    let canvas ← placeDocument context index canvas entry
    placeDocumentFrom context (index + 1) canvas rest

/-- Draws a document as it is: a field is looked at when it is needed. -/
def drawDocument (context : Script.Context) (document : Value) : Outcome (Composite Grid) := do
  let width ← document.need "width"
  let height ← document.need "height"
  let canvas ← Grid.requestNew width height
  let shapes ← document.ask "shapes" (.list [])
  let shapes ← shapes.parts
  placeDocumentFrom context 0 (.ofGrid canvas) shapes

end Composition

end TextArt
