import TextArt.Failure
import TextArt.Grid.Basic

/-!
# Painting blank cells

Painting touches only cells that are blank. The ink is a text for every place, and each text that
comes to be used has to be exactly one character; otherwise nothing is painted. Hidden characters at
the end of a text do not count.
-/

namespace TextArt

/-- Text without the NULs at its end. -/
def withoutFinalNuls (s : Text) : Text :=
  Text.ofList (s.toList.reverse.dropWhile (· = .char '\x00')).reverse

/-- The single character of a text. -/
def singleChar? (s : Text) : Option CodePoint :=
  match s.toList with
  | [c] => some c
  | _ => none

/-- The character that a value gives for a cell. -/
def Value.cell (v : Value) : Outcome Cell :=
  match v.text?.bind singleChar? with
  | some c => .ok c
  | none => .error (.badCharacter v)

namespace Grid

/-- All places of the grid, row by row. -/
def places (g : Grid) : List (Nat × Nat) :=
  (List.range g.height).flatMap fun row ↦ (List.range g.width).map fun col ↦ (row, col)

/-- Whether a cell is blank and chosen. -/
def selected (g : Grid) (mask : Nat → Nat → Bool) (row col : Nat) : Bool :=
  g.cellAt row col == Cell.blank && mask row col

/-- The number of cells that are blank and chosen. -/
def selectedCount (g : Grid) (mask : Nat → Nat → Bool) : Nat :=
  (g.places.filter fun p ↦ g.selected mask p.1 p.2).length

/-- Paints the chosen blank cells with one character. -/
def paintChar (g : Grid) (mask : Nat → Nat → Bool) (c : Cell) : Grid :=
  g.mapCells fun row col old ↦ if old == Cell.blank && mask row col then c else old

/-- The first text, row by row, that would be used and is not one character. -/
def badInk? (g : Grid) (mask : Nat → Nat → Bool) (ink : Nat → Nat → Text) : Option Text :=
  g.places.findSome? fun p ↦
    let text := withoutFinalNuls (ink p.1 p.2)
    if g.selected mask p.1 p.2 && (singleChar? text).isNone then some text else none

/-- Paints every chosen blank cell with the text for its place. -/
def paintEach (g : Grid) (mask : Nat → Nat → Bool) (ink : Nat → Nat → Text) : Outcome Grid :=
  match g.badInk? mask ink with
  | some text => .error (.badCharacter (.str text))
  | none => .ok <| g.mapCells fun row col old ↦
      if old == Cell.blank && mask row col then
        (singleChar? (withoutFinalNuls (ink row col))).getD old
      else old

end Grid

/-! ## Masks and inks as tables -/

/-- A rectangular table. -/
structure Matrix (α : Type) where
  /-- The number of rows. -/
  height : Nat
  /-- The number of columns. -/
  width : Nat
  /-- The rows. -/
  rows : Array (Array α)

namespace Matrix

/-- The table of some rows; nothing if they differ in length. -/
def ofRows? {α : Type} (rows : List (List α)) : Option (Matrix α) :=
  let width := (rows.head?.map List.length).getD 0
  if rows.all fun r ↦ r.length == width then
    some ⟨rows.length, width, (rows.map List.toArray).toArray⟩
  else none

/-- The entry at a place. -/
def get? {α : Type} (m : Matrix α) (row col : Nat) : Option α := (m.rows[row]?).bind (·[col]?)

/-- Whether the table has the size of a grid. -/
def fits {α : Type} (m : Matrix α) (g : Grid) : Bool := m.height == g.height && m.width == g.width

/-- Whether the table has the size of a grid once a single row or column is repeated. -/
def stretches {α : Type} (m : Matrix α) (g : Grid) : Bool :=
  (m.height == g.height || m.height == 1) && (m.width == g.width || m.width == 1)

/-- The entry of a mask whose single row or column is repeated. -/
def chooses (m : Matrix Bool) (row col : Nat) : Bool :=
  (m.get? (if m.height = 1 then 0 else row) (if m.width = 1 then 0 else col)).getD false

end Matrix

/-- What to paint with. -/
inductive Ink where
  /-- One text for all cells. -/
  | uniform (text : Text)
  /-- A text for every cell. -/
  | table (texts : Matrix Text)

/-- Paints the blank cells that the mask chooses, all of them without a mask, and says how many they
were. A single text is checked even if no cell is painted. -/
def Grid.paintBlanks (g : Grid) (ink : Ink) (mask : Option (Matrix Bool)) : Outcome (Grid × Nat) :=
  if (mask.map fun m ↦ m.stretches g).getD true then
    let chosen := match mask with
      | some m => m.chooses
      | none => fun _ _ ↦ true
    match ink with
    | .uniform text => do
      let c ← (Value.str text).cell
      .ok (g.paintChar chosen c, g.selectedCount chosen)
    | .table texts =>
      if texts.fits g then do
        let painted ← g.paintEach chosen fun row col ↦ (texts.get? row col).getD ""
        .ok (painted, g.selectedCount chosen)
      else .error .badIndex
  else .error .badValue

end TextArt
