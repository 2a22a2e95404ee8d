import TextArt.Grid.Basic
import TextArt.Text.Quoted

/-!
# Grids in print

What a table of cells looks like where a text is asked for: every cell between quotes, every row
between brackets, all rows between brackets again. Rows are broken at the last column, and of large
tables only the margins are shown.
-/

namespace TextArt.Grid

/-- The last column of a printed line. -/
def printColumns : Nat := 75

/-- The most cells that are all printed. -/
def printLimit : Nat := 1000

/-- How many items at each end of a large table are printed. -/
def printMargin : Nat := 3

/-- The items that are printed, with dots in the place of those that are left out. -/
def printedItems (large : Bool) (items : List Text) : List Text :=
  if large && decide (2 * printMargin < items.length) then
    items.take printMargin ++ ("..." : Text) :: items.drop (items.length - printMargin)
  else items

/-- Sets words in lines that end before a column, from a line that has been begun. -/
def printWords (indent last : Nat) (line : List CodePoint) : List Text → List CodePoint
  | [] => line
  | word :: rest =>
    let start := List.replicate indent (CodePoint.char ' ')
    let fits := line.length ≤ indent || line.length + word.length ≤ last
    let done :=
      if fits then [] else (line.reverse.dropWhile (· == .char ' ')).reverse ++ [.char '\n']
    let line := (if fits then line else start) ++ word.toList
    done ++ printWords indent last (if rest.isEmpty then line else line ++ [.char ' ']) rest

/-- A row of texts inside the given number of brackets. -/
def printRow (depth : Nat) (words : List Text) : Text :=
  let indent := depth + 1
  let start := List.replicate indent (CodePoint.char ' ')
  "[" ++ .ofList ((printWords indent (printColumns - depth - 1) start words).drop indent) ++ "]"

/-- Rows of texts inside the given number of brackets. -/
def printRows (depth : Nat) (large : Bool) (rows : List (List Text)) : Text :=
  let indent : Text := .ofList (List.replicate (depth + 1) (.char ' '))
  let lines := rows.map fun words ↦ printRow (depth + 1) (printedItems large words)
  "[" ++ Text.intercalate ("\n" ++ indent) (printedItems large lines) ++ "]"

/-- The cells of a row between quotes. -/
def quotedRow (g : Grid) (row : Nat) : List Text :=
  (List.range g.width).map fun col ↦ Text.Quoted.encode (g.cellAt row col).text

/-- One row in print. -/
def printedRow (g : Grid) (row : Nat) : Text :=
  printRows 0 (decide (printLimit < g.width)) [g.quotedRow row]

/-- All rows in print, as the only part of a larger table. -/
def printed (g : Grid) : Text :=
  "[" ++ printRows 1 (decide (printLimit < g.width * g.height))
    ((List.range g.height).map g.quotedRow) ++ "]"

end TextArt.Grid
