import TextArt.Failure
import TextArt.Grid.Basic

/-!
# Joining grids

The appends set two grids beside or below each other. They work on the text of the rows: a hidden
cell has no text and is lost, and a line feed in a cell starts a new row.
-/

namespace TextArt.Grid

/-- A grid read from text, which has to hold at least one character besides line feeds. -/
def ofText (content : Text) : Outcome Grid :=
  match ofText? content with
  | some g => .ok g
  | none => .error (.emptyContent content)

/-- A grid read from the lines of a text. -/
def ofLines (lines : List Text) : Outcome Grid := ofText (Text.intercalate "\n" lines)

/-- A line of blanks. -/
def blankLine (width : Nat) : Text := Text.ofList (List.replicate width Cell.blank)

/-- The lines of a grid, and blank ones below up to the given number. -/
def paddedLines (g : Grid) (height : Nat) : List Text :=
  g.lines ++ List.replicate (height - g.height) (blankLine g.width)

/-- The lines of two grids side by side, a blank column between them. -/
def besideLines (g other : Grid) : List Text :=
  let height := max g.height other.height
  List.zipWith (fun left right ↦ left ++ Text.singleton Cell.blank ++ right)
    (g.paddedLines height) (other.paddedLines height)

/-- Another grid to the right, after one blank column. -/
def rightAppend (g other : Grid) : Outcome Grid := ofLines (g.besideLines other)

/-- Another grid above. Grids whose cells are all hidden leave no text to make a grid of. -/
def topAppend (g other : Grid) : Outcome Grid := ofLines (other.lines ++ g.lines)

/-- Another grid below. -/
def bottomAppend (g other : Grid) : Outcome Grid := ofLines (g.lines ++ other.lines)

end TextArt.Grid
