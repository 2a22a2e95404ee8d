import TextArt.Grid.Join
import TextArt.Grid.Line
import TextArt.Grid.Overlay
import TextArt.Grid.Printed
import TextArt.Grid.Transform
import TextArt.Request.Paint

/-!
# Requests to grids

The operations on grids with arguments that are values of any kind. Whole numbers, and truth values
in their place, lead to the typed operations. Binary64 numbers may be compared with the bounds of a
grid, but they cannot be positions in it: they are accepted only where a comparison settles the
answer. A truth value compares as a number, but in a position it means all of the grid or nothing of
it, and not a row or column. Whatever cannot be compared with a number is of the wrong type.

Every request either fails or gives a new grid, so a failed one leaves its grid as it was.
-/

namespace TextArt

/-! ## Transforms -/

namespace Rotation

/-- The turn by a number of degrees. -/
def ofRequest (v : Value) : Outcome Rotation :=
  match v.number?.bind fun n ↦
      [quarter, half, threeQuarters].find? fun r ↦ n.same (.whole r.degrees) with
  | some r => .ok r
  | none => .error (.badDegrees v)

end Rotation

namespace Axis

/-- The axis of a name. -/
def ofRequest (v : Value) : Outcome Axis :=
  match v.text?.bind fun s ↦ [horizontal, vertical].find? fun a ↦ a.name == s with
  | some a => .ok a
  | none => .error (.badAxis v)

end Axis

namespace Scaling

/-- The factor of a change of size. -/
def factor : Scaling → Float
  | half => 0.5
  | double => 2

/-- The change of size by a factor. A truth value is no factor. -/
def ofRequest (v : Value) : Outcome Scaling :=
  match v with
  | .bool _ => .error (.badFactor v)
  | v =>
    match v.number?.bind fun n ↦ [half, double].find? fun s ↦ n.same (.real s.factor) with
    | some s => .ok s
    | none => .error (.badFactor v)

end Scaling

namespace Transform

/-- The transform of a kind with its parameters; only the parameter of that kind is looked at. -/
def ofRequest (kind params : Value) : Outcome Transform := do
  let params := params.orElse (.object [])
  match kind.text?.bind Text.toString? with
  | some "rotate" =>
    let degrees ← params.ask "degrees" .null
    let turn ← Rotation.ofRequest degrees
    .ok (.rotate turn)
  | some "mirror" =>
    let axis ← params.ask "axis" .null
    let axis ← Axis.ofRequest axis
    .ok (.mirror axis)
  | some "scale" =>
    let factor ← params.ask "factor" .null
    let size ← Scaling.ofRequest factor
    .ok (.scale size)
  | _ => .error (.unknownTransform kind)

/-- The transform of a step, an object with a type and parameters. -/
def ofStep (step : Value) : Outcome Transform := do
  let kind ← step.need "type"
  let params ← step.ask "params" .null
  ofRequest kind params

end Transform

namespace Grid

/-- Applies the steps of a list in order. -/
def requestTransform (g : Grid) (steps : Value) : Outcome Grid := do
  let steps ← steps.parts
  let steps ← steps.mapM Transform.ofStep
  .ok (g.applyAll steps)

/-! ## Construction -/

/-- A blank grid. -/
def requestNew (width height : Value) : Outcome Grid := do
  let w ← width.number
  if w.le (.whole 0) then .error (.badDimensions width height)
  else
    let h ← height.number
    if h.le (.whole 0) then .error (.badDimensions width height)
    else
      match w, h with
      | .whole w, .whole h =>
        match blank? w h with
        | some g => .ok g
        | none => .error (.badDimensions width height)
      | _, _ => .error .wrongType

/-- A grid read from text. -/
def requestText (content : Value) : Outcome Grid :=
  match content with
  | .str s => ofText s
  | _ => .error .missingPart

/-! ## Cells -/

/-- Whether a number lies between zero and a size. -/
def within (n : Number) (size : Nat) : Bool := (Number.whole 0).le n && n.lt (.whole size)

/-- Whether a position is inside the grid; the column is looked at only if the row is. -/
def requestInBounds (g : Grid) (row col : Value) : Outcome Bool := do
  let r ← row.number
  if within r g.height then
    let c ← col.number
    .ok (within c g.width)
  else .ok false

/-- Whether a row is inside the grid. -/
def requestHasRow (g : Grid) (row : Value) : Outcome Bool := do
  let r ← row.number
  .ok (within r g.height)

/-- A position that has been found inside the grid. -/
def position (v : Value) : Outcome Int :=
  match v.number?.bind Number.int? with
  | some n => .ok n
  | none => .error .badIndex

/-- What a position inside the grid means. -/
inductive Place where
  /-- One cell. -/
  | cell (row col : Int)
  /-- One row. -/
  | row (row : Int)
  /-- All cells. -/
  | all
  /-- No cells. -/
  | none
  deriving DecidableEq, Repr

/-- What a truth value and a number mean in a position: the number counts rows. -/
def flaggedRow (g : Grid) (flag : Bool) (v : Value) : Outcome Place := do
  let n ← position v
  if !flag then .ok .none
  else if n < g.height then .ok (.row n)
  else .error .badIndex

/-- What a position means that has been found inside the grid. -/
def place (g : Grid) (row col : Value) : Outcome Place :=
  match row, col with
  | .bool a, .bool b => .ok (if a && b then .all else .none)
  | .bool a, v => g.flaggedRow a v
  | v, .bool b => g.flaggedRow b v
  | row, col => do
    let r ← position row
    let c ← position col
    .ok (.cell r c)

/-- What a row that has been found inside the grid means. -/
def rowPlace (row : Value) : Outcome Place :=
  match row with
  | .bool a => .ok (if a then .all else .none)
  | row => do
    let r ← position row
    .ok (.row r)

/-- Writes the same character at all cells of a place. -/
def setPlace (g : Grid) (c : Cell) : Place → Grid
  | .cell row col => g.set row col c
  | .row row => g.setRow row c
  | .all => g.setAll c
  | .none => g

/-- The text of a place, nothing outside the grid. -/
def requestCell (g : Grid) (row col : Value) : Outcome (Option Text) := do
  if ← g.requestInBounds row col then
    match ← g.place row col with
    | .cell row col => .ok ((g.cell? row col).map Cell.text)
    | .row row => .ok (some (g.printedRow row.toNat))
    | .all => .ok (some g.printed)
    | .none => .ok (some "[]")
  else .ok none

/-- The text of a row, nothing outside the grid. -/
def requestRowText (g : Grid) (row : Value) : Outcome (Option Text) := do
  if ← g.requestHasRow row then
    match ← rowPlace row with
    | .row row => .ok (some (g.rowText row.toNat))
    | .none => .ok (some "")
    | _ => .error .wrongType
  else .ok none

/-- Writes one cell, or all cells that the position means. -/
def requestSet (g : Grid) (row col char : Value) : Outcome Grid := do
  let cell ← char.cell
  if ← g.requestInBounds row col then
    let place ← g.place row col
    .ok (g.setPlace cell place)
  else .ok g

/-- Fills a row, or all cells that the row means. -/
def requestSetRow (g : Grid) (row char : Value) : Outcome Grid := do
  let cell ← char.cell
  if ← g.requestHasRow row then
    let place ← rowPlace row
    .ok (g.setPlace cell place)
  else .ok g

/-! ## Lines -/

/-- The item at a place of a pair of coordinates. -/
def coordinate (v : Value) (i : Nat) : Outcome Value :=
  match v with
  | .list items =>
    match items[i]? with
    | some item => .ok item
    | none => .error .badIndex
  | .str s => if i < s.length then .ok (.str s) else .error .badIndex
  | .object _ => .error (.missingKey (.int i))
  | _ => .error .wrongType

/-- A point given by its row and column, each rounded. -/
def point (v : Value) : Outcome Point := do
  let row ← coordinate v 0
  let row ← row.number
  let row ← row.roundHalfUp
  let col ← coordinate v 1
  let col ← col.number
  let col ← col.roundHalfUp
  .ok (row, col)

/-- Draws a line. -/
def requestLine (g : Grid) (start finish char : Value) : Outcome Grid := do
  let cell ← char.cell
  let start ← point start
  let finish ← point finish
  .ok (g.drawLine start finish cell)

/-! ## Regions -/

/-- A character that may be left out. -/
def optionalCell (v : Value) : Outcome (Option Cell) :=
  match v with
  | .null => .ok none
  | v => do
    let c ← v.cell
    .ok (some c)

/-- Whether a stamp of the given size, at a place that is not whole, misses the target. -/
def misses (start : Number) (size limit : Nat) : Bool :=
  (Number.min (start.addInt size) (.whole limit)).le (start.max (.whole 0))

/-- Stamps one grid onto another. -/
def requestOverlay (target source : Grid) (row col char transparent : Value) : Outcome Grid := do
  let cell ← optionalCell char
  let r ← row.number
  let c ← col.number
  match r.int?, c.int? with
  | some r, some c => .ok (target.overlay source r c cell transparent.truthy)
  | _, _ =>
    if misses r source.height target.height || misses c source.width target.width then .ok target
    else .error .wrongType

/-- A bound clamped to the grid. -/
def clampNumber (n : Number) (limit : Nat) : Number := (n.max (.whole 0)).min (.whole limit)

/-- Cuts a region out. -/
def requestClip (g : Grid) (startRow endRow startCol endCol : Value) : Outcome Grid := do
  let r0 ← startRow.number
  let r1 ← endRow.number
  let c0 ← startCol.number
  let c1 ← endCol.number
  let r0 := clampNumber r0 g.height
  let r1 := clampNumber r1 g.height
  let c0 := clampNumber c0 g.width
  let c1 := clampNumber c1 g.width
  if r1.le r0 || c1.le c0 then .ok single
  else
    match r0.int?, r1.int?, c0.int?, c1.int? with
    | some r0, some r1, some c0, some c1 => .ok (g.clip r0 r1 c0 c1)
    | _, _, _, _ => .error .wrongType

/-- Pads a grid on both sides. -/
def requestCenter (g : Grid) (targetWidth : Value) : Outcome Grid := do
  let n ← targetWidth.number
  match n with
  | .real x =>
    if n.lt (.whole g.width) && (Binary64.unpack? x).isSome then .ok g else .error .wrongType
  | n => .ok (g.centerHorizontally (n.int?.getD 0))

end Grid

end TextArt
