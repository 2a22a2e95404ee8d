import TextArt.Schema.Scalar
import TextArt.Shape.Request

/-!
# Checked parameters of shapes

The parameters of a shape as documents have to give them: sizes are positive, a polygon has three
sides or more, a character is one character, and a text has only characters that have a glyph.
Drawing checked parameters cannot fail, save for a polygon whose number of sides is out of the
range of doubles.
-/

namespace TextArt

open Schema

/-- Whether a character may stand in a text. -/
def isTextChar (c : CodePoint) : Bool :=
  decide (.char 'A' ≤ c ∧ c ≤ .char 'Z') || decide (.char '0' ≤ c ∧ c ≤ .char '9') ||
    (" !?.-+:" : Text).toList.contains c

/-- A text that is not empty and has a glyph for every character. -/
def GlyphText : Type := { s : Text // s.isEmpty = false ∧ s.toList.all isTextChar = true }

/-- The checked parameters of a shape. -/
inductive ShapeParams where
  /-- A circle. -/
  | circle (radius : Positive) (filled : Bool) (char : Char)
  /-- A rectangle. -/
  | rectangle (width height : Positive) (char : Char) (filled : Bool)
  /-- A regular polygon. -/
  | polygon (sides : AtLeast 3) (radius : Positive) (filled : Bool) (char : Char)
  /-- A text. -/
  | text (content : GlyphText)

namespace ShapeParams

/-- The kind of the shape. -/
def kind : ShapeParams → ShapeKind
  | circle .. => .circle
  | rectangle .. => .rectangle
  | polygon .. => .polygon
  | text .. => .text

/-- A text that has a glyph for every character. -/
def glyphText (v : Value) : Checked GlyphText := do
  let s ← someText v
  if h : s.isEmpty = false ∧ s.toList.all isTextChar = true then .ok ⟨s, h⟩
  else fail "String should match pattern '^[A-Z0-9 !?.\\-+:]+$'"

/-- Checks the parameters of a shape of the given kind. -/
def check (kind : ShapeKind) (fields : Fields) : Checked ShapeParams := do
  let fields ← readable fields
  let filled := optional fields (.of "filled") false anyBool
  let char := optional fields (.of "char") '*' oneChar
  let keys (names : List Text) := noOthers fields (names.map Key.of)
  match kind with
  | .circle =>
    (both (required fields (.of "radius") (intFrom 1)) <| both filled <| both char <|
      keys ["radius", "filled", "char"]).map fun (radius, filled, char, _) ↦
        circle radius filled char
  | .rectangle =>
    (both (required fields (.of "width") (intFrom 1)) <|
      both (required fields (.of "height") (intFrom 1)) <| both char <| both filled <|
      keys ["width", "height", "char", "filled"]).map fun (width, height, char, filled, _) ↦
        rectangle width height char filled
  | .polygon =>
    (both (required fields (.of "sides") (intFrom 3)) <|
      both (required fields (.of "radius") (intFrom 1)) <| both filled <| both char <|
      keys ["sides", "radius", "filled", "char"]).map fun (sides, radius, filled, char, _) ↦
        polygon sides radius filled char
  | .text =>
    (both (required fields (.of "text") glyphText) (keys ["text"])).map fun (content, _) ↦
      text content

/-- The parameters as a document gives them, all of them spelled out. -/
def dump : ShapeParams → Fields
  | circle radius filled char =>
    [("radius", .int radius.val), ("filled", .bool filled), ("char", .str (Text.singleton char))]
  | rectangle width height char filled =>
    [("width", .int width.val), ("height", .int height.val),
      ("char", .str (Text.singleton char)), ("filled", .bool filled)]
  | polygon sides radius filled char =>
    [("sides", .int sides.val), ("radius", .int radius.val), ("filled", .bool filled),
      ("char", .str (Text.singleton char))]
  | text content => [("text", .str content.val)]

/-- Draws the shape. -/
def draw : ShapeParams → Outcome Grid
  | circle radius filled char => .ok (Circle.draw radius.val filled char)
  | rectangle width height char filled =>
    .ok (Rectangle.draw width.val height.val width.property height.property filled char)
  | polygon sides radius filled char => Polygon.attempt sides.val radius.val filled char
  | text content => GlyphMap.standard.banner (content.val.toList.map Text.singleton)

/-- Checks parameters that a user gives for a shape, those that are null counting as not given. -/
def ofUser (shape : Text) (given : Fields) : Outcome ShapeParams :=
  match ShapeKind.ofName? shape with
  | none => .error (.unknownShapeParameters shape (ShapeKind.all.map ShapeKind.name))
  | some kind =>
    let present := given.filter fun f ↦ !(f.2 matches .null)
    Schema.Checked.outcome (shape ++ " parameters") (check kind present)

end ShapeParams

/-- The names of the shapes, for a check. -/
def ShapeKind.choices : List (Text × ShapeKind) := ShapeKind.all.map fun k ↦ (k.name, k)

end TextArt
