import TextArt.Composite
import TextArt.Proofs.Grid.Stamping
import TextArt.Proofs.Outcome

/-!
# The painter's law

A canvas is painted like a picture in oil: what is placed later covers what was placed before. So a
cell shows the topmost layer that has anything to show there. The log alone tells which one that is,
since it holds the place of every layer; the canvas itself is not needed (`topmost`).

The law is an invariant. A blank canvas without layers has it, and placing one more shape keeps it,
whatever the anchor and the offsets are (`Shows.addShape`). It speaks of the shapes as they looked
when they were placed.
-/

namespace TextArt

variable {ι κ : Type}

/-! ## Layers -/

namespace Layer

/-- The layer with another mark. -/
def withMark (f : ι → κ) (layer : Layer ι) : Layer κ := { layer with shape := f layer.shape }

/-- What is logged about a shape that is placed on a canvas. -/
def placed (canvas shape : Grid) (mark : ι) (anchor : Anchor) (offsetRow offsetCol : Int)
    (char : Option Cell) : Layer ι :=
  let (row, col) := anchor.origin canvas shape offsetRow offsetCol
  { shape := mark, anchor, offsetRow := .whole offsetRow, offsetCol := .whole offsetCol, char,
    row := .whole row, col := .whole col }

/-- What a layer shows at a cell of its canvas: its character, or without one that of the shape,
wherever the shape is not blank. -/
def inkAt? (layer : Layer Grid) (row col : Nat) : Option Cell := do
  let top ← layer.row.int?
  let left ← layer.col.int?
  let stamp ← layer.shape.cell? (row - top) (col - left)
  if stamp = Cell.blank then none else some (layer.char.getD stamp)

end Layer

/-- What a canvas shows at a cell: the last layer that shows something there, or else a blank. -/
def topmost (layers : List (Layer Grid)) (row col : Nat) : Cell :=
  (layers.reverse.findSome? fun layer ↦ layer.inkAt? row col).getD Cell.blank

private theorem topmost_concat (layers : List (Layer Grid)) (layer : Layer Grid) (row col : Nat) :
    topmost (layers ++ [layer]) row col = (layer.inkAt? row col).getD (topmost layers row col) := by
  rw [topmost, List.reverse_append, List.reverse_singleton, List.singleton_append,
    List.findSome?_cons]
  cases layer.inkAt? row col <;> rfl

private theorem cellUnder_placed (canvas shape : Grid) (anchor : Anchor) (offsetRow offsetCol : Int)
    (char : Option Cell) (old : Cell) (i j : Nat) :
    Grid.cellUnder shape (anchor.origin canvas shape offsetRow offsetCol).1
        (anchor.origin canvas shape offsetRow offsetCol).2 char true old i j =
      ((Layer.placed canvas shape shape anchor offsetRow offsetCol char).inkAt? i j).getD old := by
  rw [Layer.inkAt?, Grid.cellUnder, Layer.placed]
  simp only [Number.int?, Option.bind_eq_bind, Option.bind_some, Bool.true_eq_false, false_or]
  cases shape.cell? (i - (anchor.origin canvas shape offsetRow offsetCol).1)
      (j - (anchor.origin canvas shape offsetRow offsetCol).2) with
  | none => rfl
  | some stamp => by_cases h : stamp = Cell.blank <;> simp [h]

/-! ## Canvases -/

namespace Composite

/-- A canvas shows its log. Every layer has the shape with it as it was when it was placed. -/
structure Shows (c : Composite ι) (cols rows : Nat) (log : List (Layer (ι × Grid))) : Prop where
  /-- Every placement has been logged, and nothing else, in order. -/
  layers : c.layers = log.map (Layer.withMark Prod.fst)
  /-- The canvas has its own width. -/
  width : c.canvas.width = cols
  /-- The canvas has its own height. -/
  height : c.canvas.height = rows
  /-- Every cell shows the topmost layer. -/
  cells : ∀ row col, row < rows → col < cols →
    c.canvas.cellAt row col = topmost (log.map (Layer.withMark Prod.snd)) row col

variable {c : Composite ι} {cols rows : Nat} {log : List (Layer (ι × Grid))}

theorem shows_blank (hw : 0 < cols) (hh : 0 < rows) :
    (ofGrid (.blank cols rows hw hh) : Composite ι).Shows cols rows [] where
  layers := rfl
  width := rfl
  height := rfl
  cells _ _ hrow hcol := Grid.cellAt_build hrow hcol

/-- **One more layer.** Placing a shape logs it, and the canvas shows the longer log. -/
theorem Shows.addShape (h : c.Shows cols rows log) (mark : ι) (shape : Grid) (anchor : Anchor)
    (offsetRow offsetCol : Int) (char : Option Cell) :
    (c.addShape mark shape anchor offsetRow offsetCol char).Shows cols rows
      (log ++ [.placed c.canvas shape (mark, shape) anchor offsetRow offsetCol char]) where
  layers := by
    rw [List.map_append, ← h.layers]
    rfl
  width := (Grid.width_overlay _ _ _ _ _ _).trans h.width
  height := (Grid.height_overlay _ _ _ _ _ _).trans h.height
  cells row col hrow hcol := by
    have hold := h.cells row col hrow hcol
    rw [← h.height] at hrow
    rw [← h.width] at hcol
    -- the new layer decides the cells that it shows something on, the old log all others
    rw [List.map_append, List.map_singleton, topmost_concat, ← hold]
    exact (Grid.cellAt_overlay_eq_cellUnder _ _ _ _ _ _ hrow hcol).trans
      (cellUnder_placed _ _ _ _ _ _ _ _ _)

/-- The law for shapes that look as they did when they were placed. -/
theorem Shows.topmost_marks (h : c.Shows cols rows log) {shapeOf : ι → Grid}
    (hsame : ∀ layer ∈ log, shapeOf layer.shape.1 = layer.shape.2) {row col : Nat}
    (hrow : row < rows) (hcol : col < cols) :
    c.canvas.cellAt row col = topmost (c.layers.map (Layer.withMark shapeOf)) row col := by
  have hlayers : c.layers.map (Layer.withMark shapeOf) = log.map (Layer.withMark Prod.snd) := by
    rw [h.layers, List.map_map]
    refine List.map_congr_left fun layer hlayer ↦ ?_
    rw [Function.comp_apply, Layer.withMark, Layer.withMark, Layer.withMark]
    exact congrArg (fun g ↦ { layer with shape := g }) (hsame layer hlayer)
  rw [hlayers, h.cells row col hrow hcol]

/-! ## Requests -/

private theorem requestOrigin_int (canvas shape : Grid) (anchor : Anchor)
    (offsetRow offsetCol : Int) :
    anchor.requestOrigin canvas shape (.int offsetRow) (.int offsetCol) =
      .ok (.int (anchor.origin canvas shape offsetRow offsetCol).1,
        .int (anchor.origin canvas shape offsetRow offsetCol).2) := by
  cases anchor <;> rfl

/-- With whole numbers for its offsets a placement can fail only because of its anchor or its
character. -/
theorem requestShape_int (c : Composite ι) (mark : ι) (shape : Grid) (anchor char : Value)
    (offsetRow offsetCol : Int) :
    c.requestShape mark shape anchor (.int offsetRow) (.int offsetCol) char = (do
      let anchor ← Anchor.ofRequest anchor
      let char ← Grid.optionalCell char
      .ok (c.addShape mark shape anchor offsetRow offsetCol char)) := by
  unfold requestShape
  cases Anchor.ofRequest anchor with
  | error cause => rfl
  | ok anchor =>
    simp only [ok_bind, requestOrigin_int, Grid.requestOverlay_whole]
    cases Grid.optionalCell char <;> rfl

theorem requestShape_name (c : Composite ι) (mark : ι) (shape : Grid) (anchor : Anchor)
    (offsetRow offsetCol : Int) (char : Option Cell) :
    c.requestShape mark shape (.str anchor.name) (.int offsetRow) (.int offsetCol)
        (.ofText? (char.map Text.singleton)) =
      .ok (c.addShape mark shape anchor offsetRow offsetCol char) := by
  have hanchor : Anchor.ofRequest (.str anchor.name) = .ok anchor := by
    cases anchor <;> rfl
  rw [requestShape_int, hanchor, ok_bind, Grid.optionalCell_ofText?, ok_bind]

end Composite

end TextArt
