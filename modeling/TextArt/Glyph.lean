import TextArt.Grid.Join
import TextArt.Text.LetterCase

/-!
# Glyphs and banners

A glyph is a character drawn in five rows. A glyph map lists characters with the rows of their
glyphs; a character that is not in the map is looked up in upper case. A banner is a text drawn
glyph by glyph, with one blank column between two glyphs.
-/

namespace TextArt

/-- The number of rows of a glyph. -/
def glyphHeight : Nat := 5

/-- Characters with the rows of their glyphs, in order; no character occurs twice. -/
structure GlyphMap where
  /-- The characters and their rows. -/
  entries : List (Text × List Text)

namespace GlyphMap

/-- Replaces the rows of a character in its place, or adds it at the end. -/
def put (entries : List (Text × List Text)) (char : Text) (rows : List Text) :
    List (Text × List Text) :=
  match entries with
  | [] => [(char, rows)]
  | e :: rest => if e.1 = char then (char, rows) :: rest else e :: put rest char rows

/-- A map of the given glyphs, the last of a repeated character counting; every one has to have five
rows. -/
def ofList (glyphs : List (Text × List Text)) : Outcome GlyphMap :=
  let entries := glyphs.foldl (fun m g ↦ put m g.1 g.2) []
  match entries.find? fun e ↦ e.2.length != glyphHeight with
  | some (char, rows) => .error (.badGlyphHeight char rows.length)
  | none => .ok ⟨entries⟩

/-- The rows for a character, under itself or in upper case. -/
def rows? (m : GlyphMap) (char : Text) : Option (List Text) :=
  (m.entries.lookup char).or (m.entries.lookup (Text.upper char))

/-- Whether there is a glyph for a character. -/
def supports (m : GlyphMap) (char : Text) : Bool := (m.rows? char).isSome

/-- All characters of the map in one text. -/
def characters (m : GlyphMap) : Text := Text.intercalate "" (m.entries.map Prod.fst)

/-- The glyph for a character. -/
def glyph (m : GlyphMap) (char : Text) : Outcome Grid :=
  match m.rows? char with
  | none => .error (.noGlyph char)
  | some rows => Grid.ofLines rows

/-- The glyphs of some characters side by side; there is none for no character. -/
def banner (m : GlyphMap) (chars : List Text) : Outcome Grid := do
  match ← chars.mapM m.glyph with
  | [] => .error (.emptyText (.str ""))
  | first :: rest => rest.foldlM Grid.rightAppend first

/-- Capital letters, digits, the space and six signs with their rows. -/
def table : List (String × List String) := [
  ("A", [" *** ", "*   *", "*****", "*   *", "*   *"]),
  ("B", ["**** ", "*   *", "**** ", "*   *", "**** "]),
  ("C", [" ****", "*    ", "*    ", "*    ", " ****"]),
  ("D", ["**** ", "*   *", "*   *", "*   *", "**** "]),
  ("E", ["*****", "*    ", "**** ", "*    ", "*****"]),
  ("F", ["*****", "*    ", "**** ", "*    ", "*    "]),
  ("G", [" ****", "*    ", "*  **", "*   *", " ****"]),
  ("H", ["*   *", "*   *", "*****", "*   *", "*   *"]),
  ("I", ["*****", "  *  ", "  *  ", "  *  ", "*****"]),
  ("J", ["*****", "   * ", "   * ", "*  * ", " **  "]),
  ("K", ["*   *", "*  * ", "***  ", "*  * ", "*   *"]),
  ("L", ["*    ", "*    ", "*    ", "*    ", "*****"]),
  ("M", ["*   *", "** **", "* * *", "*   *", "*   *"]),
  ("N", ["*   *", "**  *", "* * *", "*  **", "*   *"]),
  ("O", [" *** ", "*   *", "*   *", "*   *", " *** "]),
  ("P", ["**** ", "*   *", "**** ", "*    ", "*    "]),
  ("Q", [" *** ", "*   *", "* * *", "*  * ", " ** *"]),
  ("R", ["**** ", "*   *", "**** ", "*  * ", "*   *"]),
  ("S", [" ****", "*    ", " *** ", "    *", "**** "]),
  ("T", ["*****", "  *  ", "  *  ", "  *  ", "  *  "]),
  ("U", ["*   *", "*   *", "*   *", "*   *", " *** "]),
  ("V", ["*   *", "*   *", "*   *", " * * ", "  *  "]),
  ("W", ["*   *", "*   *", "* * *", "** **", "*   *"]),
  ("X", ["*   *", " * * ", "  *  ", " * * ", "*   *"]),
  ("Y", ["*   *", " * * ", "  *  ", "  *  ", "  *  "]),
  ("Z", ["*****", "   * ", "  *  ", " *   ", "*****"]),
  ("0", [" *** ", "*  **", "* * *", "**  *", " *** "]),
  ("1", ["  *  ", " **  ", "  *  ", "  *  ", " *** "]),
  ("2", [" *** ", "*   *", "  ** ", " *   ", "*****"]),
  ("3", ["**** ", "    *", " *** ", "    *", "**** "]),
  ("4", ["*   *", "*   *", "*****", "    *", "    *"]),
  ("5", ["*****", "*    ", "**** ", "    *", "**** "]),
  ("6", [" *** ", "*    ", "**** ", "*   *", " *** "]),
  ("7", ["*****", "    *", "   * ", "  *  ", "  *  "]),
  ("8", [" *** ", "*   *", " *** ", "*   *", " *** "]),
  ("9", [" *** ", "*   *", " ****", "    *", " *** "]),
  (" ", ["   ", "   ", "   ", "   ", "   "]),
  ("!", ["*", "*", "*", " ", "*"]),
  ("?", [" *** ", "*   *", "  ** ", "     ", "  *  "]),
  (".", [" ", " ", " ", " ", "*"]),
  ("-", ["   ", "   ", "***", "   ", "   "]),
  ("+", ["   ", " * ", "***", " * ", "   "]),
  (":", [" ", "*", " ", "*", " "])]

/-- The glyphs that come with the library. -/
def standard : GlyphMap := ⟨table.map fun (char, rows) ↦ (.ofString char, rows.map .ofString)⟩

end GlyphMap

end TextArt
