import TextArt.Proofs.Glyph

/-!
# Drawing checked shapes

Checked parameters leave one way to fail: the angles of a polygon are quotients by the number of its
sides, and that number may be too large for a double. All other shapes can be drawn, and their grids
are legible if the character they are drawn with is.
-/

namespace TextArt

theorem Circle.legible_draw (radius : Nat) (filled : Bool) {c : Cell} (hc : c.Legible) :
    (Circle.draw radius filled c).Legible := by
  refine Grid.legible_mapCells (Grid.legible_square radius) fun row col old hold ↦ ?_
  split
  · exact hc
  · exact hold

theorem Rectangle.legible_draw (width height : Nat) (hw : 0 < width) (hh : 0 < height)
    (filled : Bool) {c : Cell} (hc : c.Legible) :
    (Rectangle.draw width height hw hh filled c).Legible := by
  refine Grid.legible_build fun row col _ _ ↦ ?_
  split
  · exact hc
  · exact Cell.legible_blank

namespace Polygon

private theorem legible_stroke {g : Grid} (hg : g.Legible) (outline : List Point) {c : Cell}
    (hc : c.Legible) : (stroke g outline c).Legible := by
  unfold stroke
  induction edges outline generalizing g with
  | nil => exact hg
  | cons edge rest ih => exact ih (Grid.legible_drawPoints hg _ hc)

theorem legible_draw (sides radius : Nat) (filled : Bool) {c : Cell} (hc : c.Legible) :
    (Polygon.draw sides radius filled c).Legible := by
  have hstroke := legible_stroke (Grid.legible_square radius) (vertices sides radius radius) hc
  unfold Polygon.draw
  dsimp only
  split
  · exact Grid.legible_drawPoints hstroke _ hc
  · exact hstroke

end Polygon

namespace ShapeParams

/-- The character that a shape is drawn with; a text has none. -/
def char? : ShapeParams → Option Cell
  | circle _ _ char => some char
  | rectangle _ _ char _ => some char
  | polygon _ _ _ char => some char
  | text _ => none

/-- Whether a shape can be drawn: the number of sides of a polygon has to be in the range of
doubles. -/
def drawable : ShapeParams → Bool
  | polygon sides _ _ _ => Polygon.hasAngles sides.val
  | _ => true

theorem draw_of_not_drawable {shape : ShapeParams} (h : shape.drawable = false) :
    shape.draw = .error .overflow := by
  cases shape with
  | polygon sides radius filled char =>
    rw [draw, Polygon.attempt, if_neg]
    exact Bool.eq_false_iff.1 h
  | _ => cases h

/-- **Drawing.** A drawable shape is drawn, and legibly so with a legible character. -/
theorem draw_legible {shape : ShapeParams} (hdrawable : shape.drawable = true)
    (hchar : ∀ c ∈ shape.char?, c.Legible) : ∃ g, shape.draw = .ok g ∧ g.Legible := by
  cases shape with
  | circle radius filled char =>
    exact ⟨_, rfl, Circle.legible_draw _ _ (hchar char rfl)⟩
  | rectangle width height char filled =>
    exact ⟨_, rfl, Rectangle.legible_draw _ _ _ _ _ (hchar char rfl)⟩
  | polygon sides radius filled char =>
    exact ⟨_, if_pos hdrawable, Polygon.legible_draw _ _ _ (hchar char rfl)⟩
  | text content => exact GlyphMap.standard_banner_legible content

end ShapeParams

end TextArt
