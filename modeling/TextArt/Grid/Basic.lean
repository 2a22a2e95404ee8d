import TextArt.Text.Basic

/-!
# Grids of characters

A grid is a rectangle of cells with at least one row and one column. Rows are counted from the top
and columns from the left, both from zero.

`Grid.cellAt` is the one view through which the operations are described: each of them comes with a
lemma that says what the view shows afterwards, and `Grid.ext_cellAt` says that the view and the
size determine the grid. `Grid.cell?` is the same view for whole-number positions, with nothing
outside the grid.

A cell holds one character. NUL is the cell that shows nothing: it has no text, yet it is drawn.
-/

namespace TextArt

/-- What a cell holds. -/
abbrev Cell := CodePoint

namespace Cell

/-- The content of a cell on which nothing has been drawn. -/
def blank : Cell := ' '

/-- The cell that shows nothing although it is drawn. -/
def hidden : Cell := '\x00'

/-- What a cell contributes to the text of its row. -/
def text (c : Cell) : Text := if c = hidden then "" else Text.singleton c

end Cell

/-- A rectangle of cells. -/
structure Grid where
  /-- The number of columns. -/
  width : Nat
  /-- The number of rows. -/
  height : Nat
  /-- The rows from the top. -/
  cells : Vector (Vector Cell width) height
  /-- There is a column. -/
  width_pos : 0 < width
  /-- There is a row. -/
  height_pos : 0 < height
  deriving DecidableEq

namespace Grid

/-! ## The view -/

/-- The content of a cell, a blank outside the grid. -/
def cellAt (g : Grid) (row col : Nat) : Cell :=
  ((g.cells[row]?).bind (·[col]?)).getD Cell.blank

/-- Whether a position is inside the grid. -/
def inBounds (g : Grid) (row col : Int) : Bool :=
  decide (0 ≤ row ∧ row < g.height ∧ 0 ≤ col ∧ col < g.width)

/-- The content of a cell, nothing outside the grid. -/
def cell? (g : Grid) (row col : Int) : Option Cell :=
  if g.inBounds row col then some (g.cellAt row.toNat col.toNat) else none

theorem cellAt_eq_getElem (g : Grid) {row col : Nat} (hr : row < g.height) (hc : col < g.width) :
    g.cellAt row col = g.cells[row][col] := by
  simp [cellAt, hr, hc]

theorem cellAt_of_height_le (g : Grid) {row col : Nat} (h : g.height ≤ row) :
    g.cellAt row col = Cell.blank := by
  simp [cellAt, Nat.not_lt.2 h]

theorem cellAt_of_width_le (g : Grid) {row col : Nat} (h : g.width ≤ col) :
    g.cellAt row col = Cell.blank := by
  unfold cellAt
  cases hr : g.cells[row]? with
  | none => rfl
  | some v => simp [Nat.not_lt.2 h]

theorem cell?_natCast (g : Grid) {row col : Nat} (hr : row < g.height) (hc : col < g.width) :
    g.cell? row col = some (g.cellAt row col) := by
  simp [cell?, inBounds, hr, hc]

/-- **Extensionality.** The size and the cells determine a grid. -/
theorem ext_cellAt {g h : Grid} (hw : g.width = h.width) (hh : g.height = h.height)
    (hc : ∀ row col, row < g.height → col < g.width → g.cellAt row col = h.cellAt row col) :
    g = h := by
  obtain ⟨w, n, cells, wp, np⟩ := g
  obtain ⟨w', n', cells', wp', np'⟩ := h
  cases hw
  cases hh
  have : cells = cells' := by
    apply Vector.ext
    intro i hi
    apply Vector.ext
    intro j hj
    have := hc i j hi hj
    rwa [cellAt_eq_getElem _ hi hj, cellAt_eq_getElem _ hi hj] at this
  cases this
  rfl

/-! ## Building grids -/

/-- The grid of the given size whose cells are the values of a function. -/
def build (width height : Nat) (hw : 0 < width) (hh : 0 < height) (f : Nat → Nat → Cell) :
    Grid where
  width := width
  height := height
  cells := Vector.ofFn fun row ↦ Vector.ofFn fun col ↦ f row col
  width_pos := hw
  height_pos := hh

@[simp] theorem width_build {w h hw hh f} : (build w h hw hh f).width = w := rfl

@[simp] theorem height_build {w h hw hh f} : (build w h hw hh f).height = h := rfl

theorem cellAt_build {w h hw hh f} {row col : Nat} (hr : row < h) (hc : col < w) :
    (build w h hw hh f).cellAt row col = f row col := by
  rw [cellAt_eq_getElem _ hr hc]
  simp [build]

/-- The grid of the given size on which nothing has been drawn. -/
def blank (width height : Nat) (hw : 0 < width) (hh : 0 < height) : Grid :=
  build width height hw hh fun _ _ ↦ Cell.blank

/-- The single blank cell. -/
def single : Grid := blank 1 1 Nat.one_pos Nat.one_pos

instance : Inhabited Grid := ⟨single⟩

/-- The blank square around a circle of the given radius and its middle cell. -/
def square (radius : Nat) : Grid :=
  blank (2 * radius + 1) (2 * radius + 1) (Nat.succ_pos _) (Nat.succ_pos _)

@[simp] theorem width_square (radius : Nat) : (square radius).width = 2 * radius + 1 := rfl

@[simp] theorem height_square (radius : Nat) : (square radius).height = 2 * radius + 1 := rfl

/-- The blank grid of the given size, if the size is positive. -/
def blank? (width height : Int) : Option Grid :=
  if h : 0 < width ∧ 0 < height then
    some (blank width.toNat height.toNat (by omega) (by omega))
  else none

/-! ## Changing cells -/

/-- Gives every cell a new content that may depend on its place and its old content. -/
def mapCells (g : Grid) (f : Nat → Nat → Cell → Cell) : Grid :=
  build g.width g.height g.width_pos g.height_pos fun row col ↦ f row col (g.cellAt row col)

@[simp] theorem width_mapCells (g : Grid) (f) : (g.mapCells f).width = g.width := rfl

@[simp] theorem height_mapCells (g : Grid) (f) : (g.mapCells f).height = g.height := rfl

theorem cellAt_mapCells (g : Grid) (f) {row col : Nat} (hr : row < g.height) (hc : col < g.width) :
    (g.mapCells f).cellAt row col = f row col (g.cellAt row col) :=
  cellAt_build hr hc

/-- Writes a cell that is inside the grid. -/
def put (g : Grid) (row col : Nat) (hr : row < g.height) (hc : col < g.width) (c : Cell) :
    Grid where
  width := g.width
  height := g.height
  cells := g.cells.set row (g.cells[row].set col c)
  width_pos := g.width_pos
  height_pos := g.height_pos

theorem cellAt_put (g : Grid) {row col : Nat} (hr : row < g.height) (hc : col < g.width) (c : Cell)
    {i j : Nat} (hi : i < g.height) (hj : j < g.width) :
    (g.put row col hr hc c).cellAt i j = if i = row ∧ j = col then c else g.cellAt i j := by
  rw [cellAt_eq_getElem g hi hj, cellAt_eq_getElem (g.put row col hr hc c) hi hj]
  simp only [put, Vector.getElem_set]
  by_cases h : row = i
  · subst h
    by_cases h' : col = j
    · simp [h']
    · simp [h', Ne.symm h']
  · simp [h, Ne.symm h]

/-- Writes one cell; nothing happens outside the grid. -/
def set (g : Grid) (row col : Int) (c : Cell) : Grid :=
  if h : 0 ≤ row ∧ row < g.height ∧ 0 ≤ col ∧ col < g.width then
    g.put row.toNat col.toNat (by omega) (by omega) c
  else g

@[simp] theorem width_set (g : Grid) (row col : Int) (c : Cell) :
    (g.set row col c).width = g.width := by
  unfold set; split <;> rfl

@[simp] theorem height_set (g : Grid) (row col : Int) (c : Cell) :
    (g.set row col c).height = g.height := by
  unfold set; split <;> rfl

theorem cellAt_set (g : Grid) (row col : Int) (c : Cell) {i j : Nat} (hi : i < g.height)
    (hj : j < g.width) :
    (g.set row col c).cellAt i j =
      if (i : Int) = row ∧ (j : Int) = col then c else g.cellAt i j := by
  unfold set
  split
  · rw [cellAt_put g _ _ c hi hj]
    congr 1
    apply propext
    omega
  · rw [if_neg]
    omega

/-- Whether a row is inside the grid. -/
def hasRow (g : Grid) (row : Int) : Bool := decide (0 ≤ row ∧ row < g.height)

/-- Fills a row; nothing happens outside the grid. -/
def setRow (g : Grid) (row : Int) (c : Cell) : Grid :=
  if g.hasRow row then g.mapCells fun i _ old ↦ if (i : Int) = row then c else old else g

/-- Fills all cells. -/
def setAll (g : Grid) (c : Cell) : Grid := g.mapCells fun _ _ _ ↦ c

/-! ## Rows and text -/

/-- The cells of a row, from the left. -/
def rowCells (g : Grid) (row : Nat) : List Cell := (List.range g.width).map (g.cellAt row)

/-- All rows, from the top. -/
def rowList (g : Grid) : List (List Cell) := (List.range g.height).map g.rowCells

/-- The text of a list of cells: the hidden ones contribute nothing. -/
def textOf (cells : List Cell) : List CodePoint := cells.filter (· ≠ Cell.hidden)

/-- The text of a row. -/
def rowText (g : Grid) (row : Nat) : Text := Text.ofList (textOf (g.rowCells row))

/-- The text of every row, from the top. -/
def lines (g : Grid) : List Text := (List.range g.height).map g.rowText

theorem length_lines (g : Grid) : g.lines.length = g.height := by
  rw [lines, List.length_map, List.length_range]

theorem lines_ne_nil (g : Grid) : g.lines ≠ [] := by
  rw [← List.length_pos_iff, length_lines]
  exact g.height_pos

/-- The rows joined by line feeds, without one at the end. -/
def toText (g : Grid) : Text := Text.intercalate "\n" g.lines

/-- The greatest length of some lists. -/
def maxLength (rows : List (List CodePoint)) : Nat := rows.foldl (fun n r ↦ max n r.length) 0

/-- A grid of the given rows, the short ones padded with blanks; nothing if there is no character
at all. -/
def ofRows? (rows : List (List CodePoint)) : Option Grid :=
  let width := maxLength rows
  let table : Array (Array CodePoint) := (rows.map List.toArray).toArray
  if h : 0 < width ∧ 0 < table.size then
    some (build width table.size h.1 h.2 fun row col ↦
      ((table[row]?).bind (·[col]?)).getD Cell.blank)
  else none

/-- The rows that a text holds, which are separated by line feeds. -/
def rowsOf (text : List CodePoint) : List (List CodePoint) := text.splitOn (.char '\n')

/-- A grid read from text. -/
def ofText? (text : Text) : Option Grid := ofRows? (rowsOf text.toList)

/-! ## Measures -/

/-- The row and column of the middle; of two middles, the lower and the right one. -/
def center (g : Grid) : Nat × Nat := (g.height / 2, g.width / 2)

/-- The tight box around all cells that are not blank, both ends included. -/
structure Bounds where
  /-- The first row. -/
  minRow : Nat
  /-- The last row. -/
  maxRow : Nat
  /-- The first column. -/
  minCol : Nat
  /-- The last column. -/
  maxCol : Nat
  deriving DecidableEq, Repr

/-- The number of columns of a box. -/
def Bounds.width (b : Bounds) : Nat := b.maxCol - b.minCol + 1

/-- The number of rows of a box. -/
def Bounds.height (b : Bounds) : Nat := b.maxRow - b.minRow + 1

/-- Whether a row holds a cell that is not blank. -/
def rowDrawn (g : Grid) (row : Nat) : Bool :=
  (List.range g.width).any fun col ↦ g.cellAt row col != Cell.blank

/-- Whether a column holds a cell that is not blank. -/
def colDrawn (g : Grid) (col : Nat) : Bool :=
  (List.range g.height).any fun row ↦ g.cellAt row col != Cell.blank

/-- The box around the drawing; nothing for a grid without one. -/
def contentBounds? (g : Grid) : Option Bounds :=
  let rows := (List.range g.height).filter g.rowDrawn
  let cols := (List.range g.width).filter g.colDrawn
  match rows.head?, rows.getLast?, cols.head?, cols.getLast? with
  | some top, some bottom, some left, some right => some ⟨top, bottom, left, right⟩
  | _, _, _, _ => none

end Grid

end TextArt
