import TextArt.Grid.Paint
import TextArt.Request.Arguments

/-!
# Requests to paint

Reads inks and masks from values. A text is an ink for all cells, a list of rows an ink with a text
for every cell; whatever else is given has no place for a cell.
-/

namespace TextArt.Value

/-- The text of a value that is neither a list nor an object. -/
def scalarText? : Value → Option Text
  | list _ => none
  | object _ => none
  | v => some v.plain

/-- The items of a list. -/
def items? : Value → Option (List Value)
  | list items => some items
  | _ => none

/-- An ink. Rows of different lengths are out of range. -/
def ink (v : Value) : Outcome Ink :=
  match v with
  | str s => .ok (.uniform s)
  | list items =>
    match items.mapM items? with
    | none =>
      if items.any fun v ↦ (items? v).isSome then .error .badValue else .error .badIndex
    | some rows =>
      match rows.mapM (·.mapM scalarText?) with
      | none => .error .badIndex
      | some texts =>
        match Matrix.ofRows? texts with
        | none => .error .badValue
        | some table => .ok (.table table)
  | _ => .error .badIndex

/-- A mask: rows of truth values, or a single row. -/
def mask (v : Value) : Outcome (Option (Matrix Bool)) :=
  match v with
  | null => .ok none
  | list items =>
    match items.mapM items? with
    | some rows =>
      match Matrix.ofRows? (rows.map (·.map truthy)) with
      | some m => .ok (some m)
      | none => .error .badValue
    | none =>
      if items.any fun v ↦ (items? v).isSome then .error .badValue
      else .ok (Matrix.ofRows? [items.map truthy])
  | v => .ok (Matrix.ofRows? [[v.truthy]])

end TextArt.Value

namespace TextArt.Grid

/-- Paints blank cells as a request asks: a mask that does not fit is refused first. -/
def requestPaint (g : Grid) (values mask : Value) : Outcome (Grid × Nat) := do
  let mask ← mask.mask
  if (mask.map fun m ↦ m.stretches g).getD true then
    let ink ← values.ink
    g.paintBlanks ink mask
  else .error .badValue

/-- Paints the blank cells that a function chooses, as a request asks. -/
def requestInk (g : Grid) (chosen : Nat → Nat → Bool) (values : Value) : Outcome Grid := do
  match ← values.ink with
  | .uniform text =>
    let c ← (Value.str text).cell
    .ok (g.paintChar chosen c)
  | .table texts =>
    if texts.fits g then g.paintEach chosen fun row col ↦ (texts.get? row col).getD ""
    else .error .badIndex

end TextArt.Grid
