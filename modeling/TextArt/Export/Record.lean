import TextArt.Grid.Basic
import TextArt.Json.Writer

/-!
# Grids as JSON records

A record says how large a grid is, what its cells hold and when it was written, after whatever
metadata the writer adds. The four names of the grid itself are reserved: metadata under one of them
gives the place of the field, but not its value.
-/

namespace TextArt.Grid

/-- The rows of a grid as lists of texts, one for each cell. -/
def toRows (g : Grid) : Value := .list (g.rowList.map fun row ↦ .strings (row.map Cell.text))

/-- The fields of a record that belong to the grid and to the time of writing. -/
def recordFields (g : Grid) (time : Text) : Fields :=
  [("width", .int g.width), ("height", .int g.height), ("grid", g.toRows),
    ("timestamp", .str time)]

/-- The record of a grid. -/
def toRecord (g : Grid) (metadata : Fields) (time : Text) : Value :=
  .object (Fields.ofList (metadata ++ g.recordFields time))

/-- The text of the record of a grid, with room for the given number of lists and objects inside
each other. -/
def toJson (g : Grid) (room : Nat) (metadata : Fields) (time : Text) : Outcome Text :=
  Json.write? room .indented (g.toRecord metadata time)

end TextArt.Grid
