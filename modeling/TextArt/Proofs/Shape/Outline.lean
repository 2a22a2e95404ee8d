import TextArt.Proofs.Binary64.Sum
import TextArt.Proofs.Fill.Repaint
import TextArt.Proofs.Shape
import TextArt.Proofs.Shape.Circle
import TextArt.Proofs.Wire.Shape

/-!
# Outlines and areas

A circle, a rectangle or a polygon can be drawn as an outline or as an area. The three come to their
areas in different ways: a circle takes more cells by a larger mask, a rectangle takes whole rows,
and a polygon is drawn as an outline first and then filled between the columns at which its edges
cross a row. In all three the area comes out of the outline by drawing on blank cells, with the same
character (`Grid.DrawsOver`).

For a polygon that does not depend on where its vertices and crossings lie: what is drawn with a
single character stays when more is drawn with it, whatever the points are
(`Grid.DrawnWith.drawsOver_drawPoints`).
-/

namespace TextArt

namespace Grid

variable {g g' : Grid} {c : Cell}

/-! ## Drawing with one character -/

/-- Every cell shows the character or nothing. -/
def DrawnWith (g : Grid) (c : Cell) : Prop :=
  ∀ row col, g.cellAt row col = Cell.blank ∨ g.cellAt row col = c

/-- Both grids are drawn with one character, and the second one comes out of the first one by
drawing on its blank cells. -/
structure DrawsOver (c : Cell) (g g' : Grid) : Prop where
  /-- The first one is drawn with the character. -/
  before : g.DrawnWith c
  /-- The second one is, too. -/
  after : g'.DrawnWith c
  /-- What is drawn stays. -/
  repaints : g.Repaints g'

theorem drawnWith_of_inside
    (h : ∀ row col, row < g.height → col < g.width →
      g.cellAt row col = Cell.blank ∨ g.cellAt row col = c) : g.DrawnWith c := by
  intro row col
  by_cases hdrawn : g.cellAt row col = Cell.blank
  · exact .inl hdrawn
  · exact h row col (lt_of_drawn hdrawn).1 (lt_of_drawn hdrawn).2

private theorem drawnWith_blank (width height : Nat) (hw : 0 < width) (hh : 0 < height) (c : Cell) :
    (blank width height hw hh).DrawnWith c := fun row col ↦ .inl (cellAt_blank row col)

private theorem drawnWith_of_mask {mask : Nat → Nat → Bool}
    (h : ∀ row col, row < g.height → col < g.width →
      g.cellAt row col = if mask row col then c else Cell.blank) : g.DrawnWith c := by
  refine drawnWith_of_inside fun row col hrow hcol ↦ ?_
  rw [h row col hrow hcol]
  split
  · exact .inr rfl
  · exact .inl rfl

theorem drawsOver_of_masks {mask mask' : Nat → Nat → Bool} (hwidth : g'.width = g.width)
    (hheight : g'.height = g.height)
    (hg : ∀ row col, row < g.height → col < g.width →
      g.cellAt row col = if mask row col then c else Cell.blank)
    (hg' : ∀ row col, row < g'.height → col < g'.width →
      g'.cellAt row col = if mask' row col then c else Cell.blank)
    (hmask : ∀ row col, mask row col = true → mask' row col = true) : DrawsOver c g g' := by
  refine ⟨drawnWith_of_mask hg, drawnWith_of_mask hg', hwidth, hheight,
    fun row col hrow hcol hdrawn ↦ ?_⟩
  have hin : mask row col = true := by
    by_contra hout
    exact hdrawn ((hg row col hrow hcol).trans (if_neg hout))
  rw [hg row col hrow hcol, hg' row col (hheight ▸ hrow) (hwidth ▸ hcol), if_pos hin,
    if_pos (hmask row col hin)]

theorem DrawnWith.drawsOver_drawPoints (h : g.DrawnWith c) (points : List Point) :
    DrawsOver c g (g.drawPoints points c) := by
  have hcells (row col : Nat) (hrow : row < g.height) (hcol : col < g.width) :=
    cellAt_drawPoints g points c hrow hcol
  refine ⟨h, drawnWith_of_inside fun row col hrow hcol ↦ ?_, width_drawPoints ..,
    height_drawPoints .., fun row col hrow hcol hdrawn ↦ ?_⟩
  · rw [height_drawPoints] at hrow
    rw [width_drawPoints] at hcol
    rw [hcells row col hrow hcol]
    split
    · exact .inr rfl
    · exact h row col
  · rw [hcells row col hrow hcol]
    split
    · exact ((h row col).resolve_left hdrawn).symm
    · rfl

private theorem DrawnWith.cellAt_paintChar (h : g.DrawnWith c) {row col : Nat}
    (hrow : row < g.height)
    (hcol : col < g.width) : (g.paintChar (fun _ _ ↦ true) c).cellAt row col = c := by
  rw [paintChar, cellAt_mapCells _ _ hrow hcol, Bool.and_true]
  split
  · rfl
  · next hdrawn => exact (h row col).resolve_left (by simpa using hdrawn)

end Grid

open Grid (DrawsOver)
open Schema (AtLeast Positive)

/-! ## The three shapes -/

private theorem Circle.drawsOver_draw (radius : Nat) (c : Cell) :
    DrawsOver c (draw radius false c) (draw radius true c) := by
  refine Grid.drawsOver_of_masks rfl rfl (fun _ _ hrow hcol ↦ cellAt_draw false c hrow hcol)
    (fun _ _ hrow hcol ↦ cellAt_draw true c hrow hcol) fun row col hcovers ↦ ?_
  exact covers_disc_iff.2 (covers_outline_iff.1 hcovers).le

theorem Rectangle.drawsOver_draw (width height : Nat) (hw : 0 < width) (hh : 0 < height)
    (c : Cell) :
    DrawsOver c (draw width height hw hh false c) (draw width height hw hh true c) :=
  Grid.drawsOver_of_masks rfl rfl (fun _ _ hrow hcol ↦ Grid.cellAt_build hrow hcol)
    (fun _ _ hrow hcol ↦ Grid.cellAt_build hrow hcol) fun _ _ _ ↦ rfl

private theorem Rectangle.paintChar_draw (width height : Nat) (hw : 0 < width) (hh : 0 < height)
    (c : Cell) :
    (draw width height hw hh false c).paintChar (fun _ _ ↦ true) c =
      draw width height hw hh true c := by
  refine Grid.ext_cellAt rfl rfl fun row col hrow hcol ↦ ?_
  have harea : (draw width height hw hh true c).cellAt row col = c :=
    Grid.cellAt_build hrow hcol
  rw [harea, (drawsOver_draw width height hw hh c).before.cellAt_paintChar hrow hcol]

namespace Polygon

private theorem drawnWith_stroke {g : Grid} {c : Cell} (h : g.DrawnWith c) (outline : List Point) :
    (stroke g outline c).DrawnWith c := by
  unfold stroke
  induction edges outline generalizing g with
  | nil => exact h
  | cons edge rest ih => exact ih (h.drawsOver_drawPoints _).after

private theorem drawsOver_draw (sides radius : Nat) (c : Cell) :
    DrawsOver c (draw sides radius false c) (draw sides radius true c) :=
  (drawnWith_stroke (Grid.drawnWith_blank _ _ _ _ c) _).drawsOver_drawPoints _

end Polygon

/-! ## Requests -/

private theorem FillRegistry.apply_solid (settings : FillSettings) (g : Grid) (c : Cell) :
    standard.apply settings (.str "solid") g [("char", .str (Text.singleton c))] =
      .ok (g.paintChar (fun _ _ ↦ true) c) := by
  have happly : standard.apply settings (.str "solid") g [("char", .str (Text.singleton c))] =
      g.requestInk (fun _ _ ↦ true) (.str (Text.singleton c)) := by
    have hname : snakeCase "char" = "char" := rfl
    unfold apply converted
    rw [List.map_singleton, hname]
    rfl
  have hink : (Value.str (Text.singleton c)).ink = .ok (.uniform (Text.singleton c)) := rfl
  rw [happly, Grid.requestInk, hink, ok_bind]
  dsimp only
  rw [Value.cell_singleton, ok_bind]

/-! ## Figures -/

/-- What can be drawn as an outline or as an area. -/
inductive Figure where
  /-- A circle. -/
  | circle (radius : Positive)
  /-- A rectangle. -/
  | rectangle (width height : Positive)
  /-- A regular polygon. -/
  | polygon (sides : AtLeast 3) (radius : Positive)

namespace Figure

/-- The kind of the figure. -/
def kind : Figure → ShapeKind
  | circle _ => .circle
  | rectangle _ _ => .rectangle
  | polygon _ _ => .polygon

/-- The parameters of the outline or the area, drawn with a character. -/
def params (f : Figure) (filled : Bool) (c : Cell) : Fields :=
  match f with
  | circle radius =>
    [("radius", .int radius.val), ("filled", .bool filled), ("char", .str (Text.singleton c))]
  | rectangle width height =>
    [("width", .int width.val), ("height", .int height.val), ("char", .str (Text.singleton c)),
      ("filled", .bool filled)]
  | polygon sides radius =>
    [("sides", .int sides.val), ("radius", .int radius.val), ("filled", .bool filled),
      ("char", .str (Text.singleton c))]

/-- Asks for the outline or the area. -/
def request (f : Figure) (filled : Bool) (c : Cell) : Outcome Grid :=
  Shape.request (.str f.kind.name) (.object (f.params filled c))

/-- Whether the number of sides of a polygon is in the range of doubles. -/
def drawable : Figure → Bool
  | polygon sides _ => Polygon.hasAngles sides.val
  | _ => true

private theorem request_circle (radius : Positive) (filled : Bool) (c : Cell) :
    (circle radius).request filled c = .ok (Circle.draw radius.val filled c) := by
  rw [request, Shape.request_name, kind, Shape.requestKind]
  have hchar : ((circle radius).params filled c).argument "char" Shape.defaultChar =
      .str (Text.singleton c) := rfl
  have hradius : ((circle radius).params filled c).argument "radius" .null =
      .int radius.val := rfl
  have haccept : ((circle radius).params filled c).accept ["radius"] ["filled", "char"] =
      .ok () := rfl
  rw [Shape.requestCircle, haccept, ok_bind, hchar, Value.cell_singleton, ok_bind, hradius,
    Shape.squareRadius_natCast, ok_bind]
  rfl

theorem request_rectangle (width height : Positive) (filled : Bool) (c : Cell) :
    (rectangle width height).request filled c =
      .ok (Rectangle.draw width.val height.val width.property height.property filled c) := by
  rw [request, Shape.request_name, kind, Shape.requestKind]
  have hchar : ((rectangle width height).params filled c).argument "char" Shape.defaultChar =
      .str (Text.singleton c) := rfl
  have hwidth : ((rectangle width height).params filled c).argument "width" .null =
      .int width.val := rfl
  have hheight : ((rectangle width height).params filled c).argument "height" .null =
      .int height.val := rfl
  have haccept : ((rectangle width height).params filled c).accept ["width", "height"]
      ["char", "filled"] = .ok () := rfl
  rw [Shape.requestRectangle, haccept, ok_bind, hwidth, hheight, Shape.requestNew_positive,
    ok_bind, hchar, Value.cell_singleton, ok_bind]
  rfl

theorem request_polygon (sides : AtLeast 3) (radius : Positive) (filled : Bool) (c : Cell) :
    (polygon sides radius).request filled c =
      Polygon.attempt sides.val radius.val filled c := by
  rw [request, Shape.request_name, kind, Shape.requestKind]
  have hchar : ((polygon sides radius).params filled c).argument "char" Shape.defaultChar =
      .str (Text.singleton c) := rfl
  have hsides : ((polygon sides radius).params filled c).argument "sides" .null =
      .int sides.val := rfl
  have hradius : ((polygon sides radius).params filled c).argument "radius" .null =
      .int radius.val := rfl
  have haccept : ((polygon sides radius).params filled c).accept ["sides", "radius"]
      ["filled", "char"] = .ok () := rfl
  have hnumber : (Value.int sides.val).number = .ok (.whole sides.val) := rfl
  have hmany : (Number.whole sides.val).lt (.whole 3) = false := by
    have hthree := sides.property
    rw [Number.lt_whole, decide_eq_false_iff_not]
    omega
  rw [Shape.requestPolygon, haccept, ok_bind, hchar, Value.cell_singleton, ok_bind, hsides]
  dsimp only
  rw [hnumber, ok_bind, hmany, if_neg Bool.false_ne_true, hradius, Shape.squareRadius_natCast,
    ok_bind]
  rfl

private theorem drawable_or_countless (f : Figure) :
    f.drawable = true ∨
      ∃ sides radius, f = polygon sides radius ∧ (2 ^ 53 - 1) * 2 ^ 971 < sides.val := by
  cases f with
  | circle radius => exact .inl rfl
  | rectangle width height => exact .inl rfl
  | polygon sides radius =>
    by_cases hsides : (2 ^ 53 - 1) * 2 ^ 971 < sides.val
    · exact .inr ⟨sides, radius, rfl, hsides⟩
    · obtain ⟨x, hx⟩ := Binary64.ofInt?_of_le (n := sides.val) le_rfl (Nat.le_of_not_lt hsides)
      exact .inl (Option.isSome_iff_exists.2 ⟨x, hx⟩)

theorem request_of_not_drawable {f : Figure} (h : f.drawable = false) (filled : Bool) (c : Cell) :
    f.request filled c = .error .overflow := by
  cases f with
  | polygon sides radius =>
    rw [request_polygon]
    exact if_neg (Bool.eq_false_iff.1 h)
  | _ => cases h

private theorem request_of_drawable {f : Figure} (h : f.drawable = true) (c : Cell) :
    ∃ outline area : Grid, f.request false c = .ok outline ∧ f.request true c = .ok area ∧
      DrawsOver c outline area := by
  cases f with
  | circle radius =>
    rw [request_circle, request_circle]
    exact ⟨_, _, rfl, rfl, Circle.drawsOver_draw radius.val c⟩
  | rectangle width height =>
    rw [request_rectangle, request_rectangle]
    exact ⟨_, _, rfl, rfl, Rectangle.drawsOver_draw _ _ _ _ c⟩
  | polygon sides radius =>
    rw [request_polygon, request_polygon]
    exact ⟨_, _, if_pos h, if_pos h, Polygon.drawsOver_draw sides.val radius.val c⟩

end Figure

end TextArt
