import TextArt.Grid.Basic

/-!
# Grids as HTML

Every cell becomes one `span` element, and every row ends with a line break. What a cell holds is
escaped, so that the only markup is that of the grid itself.
-/

namespace TextArt

namespace Html

/-- A character of text as HTML writes it. -/
def escapeChar : CodePoint → List CodePoint
  | .char '&' => ("&amp;" : Text).toList
  | .char '<' => ("&lt;" : Text).toList
  | .char '>' => ("&gt;" : Text).toList
  | .char '"' => ("&quot;" : Text).toList
  | .char '\'' => ("&#x27;" : Text).toList
  | c => [c]

/-- Text as HTML writes it. -/
def escape (s : List CodePoint) : List CodePoint := s.flatMap escapeChar

/-- The element of a cell. -/
def cell (c : Cell) : List CodePoint :=
  ("<span>" : Text).toList ++ escape c.text.toList ++ ("</span>" : Text).toList

/-- The elements of a row. -/
def row (cells : List Cell) : List CodePoint := cells.flatMap cell ++ ("<br>" : Text).toList

end Html

/-- A grid as HTML. -/
def Grid.toHtml (g : Grid) : Text := Text.ofList (g.rowList.flatMap Html.row)

end TextArt
