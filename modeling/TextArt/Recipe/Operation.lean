import TextArt.Recipe.FillSpec
import TextArt.Recipe.ShapeParams

/-!
# Checked operations of recipes

An operation of a recipe makes a grid, out of nothing or out of grids that earlier operations have
stored, and stores it under a name.
-/

namespace TextArt

open Schema

namespace Recipe

/-- What an operation does. -/
inductive Action where
  /-- Draws a shape and fills it. -/
  | generate (shape : ShapeParams) (fill : FillSpec)
  /-- Stamps one grid onto another. -/
  | overlay (target source : Text) (row col : Int) (transparent : Bool) (char : Option Char)
  /-- Cuts a region out. -/
  | clip (source : Text) (startRow endRow startCol endCol : Int)
  /-- Turns, mirrors or scales. -/
  | transform (source : Text) (step : Transform)
  /-- Sets one grid above another. -/
  | topAppend (target source : Text)
  /-- Sets one grid below another. -/
  | bottomAppend (target source : Text)
  /-- Pads a grid on both sides. -/
  | centerHorizontally (source : Text) (targetWidth : Positive)

/-- An operation: what it does, and the name for its grid. -/
structure Operation where
  /-- What it does. -/
  action : Action
  /-- The name for the grid. -/
  storeAs : Text

namespace Action

/-- The name of an action in documents. -/
def name : Action → Text
  | generate .. => "generate"
  | overlay .. => "overlay"
  | clip .. => "clip"
  | transform .. => "transform"
  | topAppend .. => "topAppend"
  | bottomAppend .. => "bottomAppend"
  | centerHorizontally .. => "centerHorizontally"

end Action

/-! ## Checking -/

/-- The name for the grid of an operation. -/
def storeKey : Key := ⟨"storeAs", "store_as"⟩

/-- Checks that a text of the given field is there. -/
def textField (fields : Fields) (name : Text) : Checked Text :=
  required fields (.of name) anyText

/-- Checks the name for the grid. -/
def storeField (fields : Fields) : Checked Text := required fields storeKey someText

/-- The problems of names that are no fields of an operation. -/
def onlyFields (fields : Fields) (keys : List Key) : Checked Unit :=
  noOthers fields (.of "operation" :: storeKey :: keys)

/-- Checks an operation that draws a shape. -/
def checkGenerate (registry : FillRegistry) (fields : Fields) : Checked Operation := do
  let (shape, params, store, pattern, fillParams, _) ←
    both (required fields (.of "shape") (oneOf ShapeKind.choices)) <|
    both (optional fields (.of "params") [] anyObject) <|
    both (storeField fields) <|
    both (optional fields ⟨"fillPattern", "fill_pattern"⟩ none (nullable anyText)) <|
    both (optional fields ⟨"fillParams", "fill_params"⟩ [] anyObject) <|
    onlyFields fields [.of "shape", .of "params", ⟨"fillPattern", "fill_pattern"⟩,
      ⟨"fillParams", "fill_params"⟩]
  let shape ← ShapeParams.check shape params
  let fill ← FillSpec.check registry pattern fillParams
  .ok ⟨.generate shape fill, store⟩

/-- Checks a position: both coordinates may be left out. -/
def checkPosition (v : Value) : Checked (Int × Int) := do
  let fields ← record "Position" v
  let (row, col, _) ←
    both (optional fields (.of "row") 0 anyInt) <| both (optional fields (.of "col") 0 anyInt) <|
    noOthers fields [.of "row", .of "col"]
  .ok (row, col)

/-- Checks an operation that stamps. -/
def checkOverlay (fields : Fields) : Checked Operation := do
  let (target, source, (row, col), transparent, char, store, _) ←
    both (textField fields "target") <| both (textField fields "source") <|
    both (optional fields (.of "position") (0, 0) checkPosition) <|
    both (optional fields (.of "transparent") true anyBool) <|
    both (optional fields (.of "char") none (nullable oneChar)) <|
    both (storeField fields) <|
    onlyFields fields [.of "target", .of "source", .of "position", .of "transparent", .of "char"]
  .ok ⟨.overlay target source row col transparent char, store⟩

/-- The bounds of a region. -/
def boundKeys : List Key :=
  [⟨"startRow", "start_row"⟩, ⟨"endRow", "end_row"⟩, ⟨"startCol", "start_col"⟩,
    ⟨"endCol", "end_col"⟩]

/-- Checks the bounds of a region, all of which have to be given. -/
def checkBounds (v : Value) : Checked (Int × Int × Int × Int) := do
  let fields ← record "Bounds" v
  let (startRow, endRow, startCol, endCol, _) ←
    both (required fields ⟨"startRow", "start_row"⟩ anyInt) <|
    both (required fields ⟨"endRow", "end_row"⟩ anyInt) <|
    both (required fields ⟨"startCol", "start_col"⟩ anyInt) <|
    both (required fields ⟨"endCol", "end_col"⟩ anyInt) <|
    noOthers fields boundKeys
  .ok (startRow, endRow, startCol, endCol)

/-- Checks an operation that cuts out. -/
def checkClip (fields : Fields) : Checked Operation := do
  let (source, (startRow, endRow, startCol, endCol), store, _) ←
    both (textField fields "source") <| both (required fields (.of "bounds") checkBounds) <|
    both (storeField fields) <| onlyFields fields [.of "source", .of "bounds"]
  .ok ⟨.clip source startRow endRow startCol endCol, store⟩

/-- The kinds of transforms. -/
inductive TransformKind where
  /-- Turning. -/
  | rotate
  /-- Mirroring. -/
  | mirror
  /-- Scaling. -/
  | scale

/-- A turn by a checked number of degrees. -/
def degreesField (v : Value) : Checked Transform := do
  let n ← anyInt v
  match [Rotation.quarter, .half, .threeQuarters].find? fun r ↦ r.degrees == n with
  | some r => .ok (.rotate r)
  | none => fail "Value error, degrees must be one of 90, 180, 270"

/-- A change of size by a checked factor. -/
def factorField (v : Value) : Checked Transform := do
  let x ← anyFloat v
  match [Scaling.half, .double].find? fun s ↦ s.factor == x with
  | some s => .ok (.scale s)
  | none => fail "Value error, factor must be 0.5 or 2.0"

/-- An axis by its name. -/
def axisField (v : Value) : Checked Transform :=
  (oneOf [("horizontal", Axis.horizontal), ("vertical", Axis.vertical)] v).map .mirror

/-- Checks the parameters of a transform; each kind has one. -/
def checkTransformParams (kind : TransformKind) (params : Fields) : Checked Transform := do
  let params ← readable params
  let only (name : Text) (check : Value → Checked Transform) : Checked Transform :=
    (both (required params (.of name) check) (noOthers params [.of name])).map Prod.fst
  match kind with
  | .rotate => only "degrees" degreesField
  | .mirror => only "axis" axisField
  | .scale => only "factor" factorField

/-- Checks an operation that transforms. -/
def checkTransform (fields : Fields) : Checked Operation := do
  let (source, kind, params, store, _) ←
    both (textField fields "source") <|
    both (required fields (.of "type") (oneOf
      [("rotate", TransformKind.rotate), ("mirror", .mirror), ("scale", .scale)])) <|
    both (optional fields (.of "params") [] anyObject) <|
    both (storeField fields) <| onlyFields fields [.of "source", .of "type", .of "params"]
  let step ← checkTransformParams kind params
  .ok ⟨.transform source step, store⟩

/-- Checks an operation that sets one grid above or below another. -/
def checkAppend (make : Text → Text → Action) (fields : Fields) : Checked Operation := do
  let (target, source, store, _) ←
    both (textField fields "target") <| both (textField fields "source") <|
    both (storeField fields) <| onlyFields fields [.of "target", .of "source"]
  .ok ⟨make target source, store⟩

/-- Checks an operation that pads. -/
def checkCenter (fields : Fields) : Checked Operation := do
  let (source, targetWidth, store, _) ←
    both (textField fields "source") <|
    both (required fields ⟨"targetWidth", "target_width"⟩ (intFrom 1)) <|
    both (storeField fields) <|
    onlyFields fields [.of "source", ⟨"targetWidth", "target_width"⟩]
  .ok ⟨.centerHorizontally source targetWidth, store⟩

/-- The checks of all operations by their names. -/
def operationChecks (registry : FillRegistry) : List (Text × (Fields → Checked Operation)) := [
  ("generate", checkGenerate registry),
  ("overlay", checkOverlay),
  ("clip", checkClip),
  ("transform", checkTransform),
  ("topAppend", checkAppend .topAppend),
  ("bottomAppend", checkAppend .bottomAppend),
  ("centerHorizontally", checkCenter)]

/-- The names of all operations. -/
def operationNames : List Text :=
  ["generate", "overlay", "clip", "transform", "topAppend", "bottomAppend", "centerHorizontally"]

/-- A tag; if it is a text, it has to be one that can be read. -/
def readableTag (tag : Value) : Checked Value :=
  match tag with
  | .str s => (decoded s).map .str
  | tag => .ok tag

/-- Checks an operation; its name decides which fields it has. -/
def checkOperation (registry : FillRegistry) (v : Value) : Checked Operation :=
  match v with
  | .object fields =>
    match fields.lookup ("operation" : Text) with
    | none => fail "Unable to extract tag using discriminator 'operation'"
    | some tag => do
      let tag ← readableTag tag
      match tag.text?.bind fun s ↦ ((operationChecks registry).lookup s).map (s, ·) with
      | some (name, check) => under name (readable fields >>= check)
      | none =>
        fail ("Input tag '" ++ tag.plain
          ++ "' found using 'operation' does not match any of the expected tags: "
          ++ Text.intercalate ", " (operationNames.map fun n ↦ "'" ++ n ++ "'"))
  | _ => fail "Input should be a valid dictionary or object to extract fields from"

/-! ## Spelling out -/

/-- The parameters of a transform as a document gives them. -/
def dumpTransform : Transform → Fields
  | .rotate r => [("type", .str "rotate"), ("params", .object [("degrees", .int r.degrees)])]
  | .mirror a => [("type", .str "mirror"), ("params", .object [("axis", .str a.name)])]
  | .scale s => [("type", .str "scale"), ("params", .object [("factor", .float s.factor)])]

/-- The fields of an action other than its name. -/
def Action.dump : Action → Fields
  | generate shape fill =>
    ("shape", .str shape.kind.name) :: ("params", .object shape.dump) :: fill.dump
  | overlay target source row col transparent char =>
    [("target", .str target), ("source", .str source),
      ("position", .object [("row", .int row), ("col", .int col)]),
      ("transparent", .bool transparent),
      ("char", .ofText? (char.map fun c ↦ Text.singleton (.char c)))]
  | clip source startRow endRow startCol endCol =>
    [("source", .str source),
      ("bounds", .object [("startRow", .int startRow), ("endRow", .int endRow),
        ("startCol", .int startCol), ("endCol", .int endCol)])]
  | transform source step => ("source", .str source) :: dumpTransform step
  | topAppend target source => [("target", .str target), ("source", .str source)]
  | bottomAppend target source => [("target", .str target), ("source", .str source)]
  | centerHorizontally source targetWidth =>
    [("source", .str source), ("targetWidth", .int targetWidth.val)]

/-- An operation as a document gives it, all its fields spelled out. -/
def Operation.dump (o : Operation) : Value :=
  let name : Text × Value := ("operation", .str o.action.name)
  let store : Text × Value := ("storeAs", .str o.storeAs)
  .object (name :: o.action.dump ++ [store])

end Recipe

end TextArt
