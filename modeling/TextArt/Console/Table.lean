import TextArt.Text.Basic

/-!
# Tables on a console

A table has a title centred over it, a header in heavy lines and a body in light ones. Every column
is as wide as its longest cell, with a blank on both sides.
-/

namespace TextArt.Console

/-- On which side of its column a text stands. -/
inductive Side where
  /-- On the left. -/
  | left
  /-- On the right. -/
  | right
  deriving DecidableEq, Repr

/-- A column of a table. -/
structure Column where
  /-- What the header says. -/
  header : Text
  /-- Where the texts stand. -/
  side : Side := .left
  deriving Repr

/-- A table. -/
structure Table where
  /-- What stands above it. -/
  title : Text
  /-- The columns. -/
  columns : List Column
  /-- The cells of each row, one for every column. -/
  rows : List (List Text)
  deriving Repr

/-- The line that a rule is made of and its ends and crossings. -/
structure Rule where
  /-- The left end. -/
  first : CodePoint
  /-- The line itself. -/
  line : CodePoint
  /-- Where it crosses the line between two columns. -/
  crossing : CodePoint
  /-- The right end. -/
  last : CodePoint
  deriving Repr

/-- The rule above the header. -/
def topRule : Rule := ⟨'┏', '━', '┳', '┓'⟩

/-- The rule below the header. -/
def headerRule : Rule := ⟨'┡', '━', '╇', '┩'⟩

/-- The rule below the body. -/
def bottomRule : Rule := ⟨'└', '─', '┴', '┘'⟩

namespace Table

/-- The width of each column without the blanks around it. -/
def widths (t : Table) : List Nat :=
  t.columns.zipIdx.map fun (column, i) ↦
    t.rows.foldl (fun n row ↦ max n ((row[i]?).getD ("" : Text)).length) column.header.length

/-- A rule over columns of the given widths. -/
def rule (r : Rule) (widths : List Nat) : List CodePoint :=
  let spans := widths.map fun n ↦ List.replicate (n + 2) r.line
  r.first :: [r.crossing].intercalate spans ++ [r.last]

/-- A text brought to a width with blanks. -/
def justify (side : Side) (width : Nat) (s : Text) : List CodePoint :=
  let blanks : List CodePoint := List.replicate (width - s.length) (.char ' ')
  match side with
  | .left => s.toList ++ blanks
  | .right => blanks ++ s.toList

/-- A line of texts between bars. -/
def textLine (t : Table) (bar : CodePoint) (texts : List Text) : List CodePoint :=
  let spans := (t.columns.zip (t.widths.zip texts)).map fun (column, width, s) ↦
    CodePoint.char ' ' :: justify column.side width s ++ [.char ' ']
  bar :: [bar].intercalate spans ++ [bar]

/-- A text in the middle of a line; of two middles, the left one. -/
def centered (width : Nat) (s : Text) : List CodePoint :=
  let free := width - s.length
  List.replicate (free / 2) (.char ' ') ++ s.toList
    ++ List.replicate (free - free / 2) (.char ' ')

/-- The lines of a table. -/
def lines (t : Table) : List Text :=
  let top := rule topRule t.widths
  ([centered top.length t.title, top, t.textLine '┃' (t.columns.map Column.header),
      rule headerRule t.widths]
    ++ t.rows.map (t.textLine '│')
    ++ [rule bottomRule t.widths]).map Text.ofList

end Table

end TextArt.Console
