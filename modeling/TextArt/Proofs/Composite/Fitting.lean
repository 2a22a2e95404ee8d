import TextArt.Proofs.Composite
import TextArt.Proofs.Grid.Clipping
import TextArt.Proofs.Grid.Symmetry
import TextArt.Proofs.Wire.Shape

/-!
# Shapes that fit

A shape that is no larger than its canvas can be placed at every anchor without losing a cell. At
the corners that is plain. In the middle it has to be seen that rounding does no harm: the middles
of canvas and shape are rounded down apart, and the place of the shape is the difference of the two.
It is half of the columns that are left over, rounded down, or one column more, and that one column
is there because the number left over is odd (`half_sub_half`).

To pad a grid on both sides is to stamp it onto blanks of its own height
(`Grid.centerHorizontally_eq_overlay`), at half of what is left over. So padding and placing in the
middle are stamps of the same grid onto the same blanks, and they agree where their places do.
-/

namespace TextArt

/-- The difference of two rounded halves is the rounded half of the difference, and one more just if
the whole is even and the part is odd. -/
theorem half_sub_half (whole part : Nat) :
    ((whole / 2 : Nat) : Int) - (part / 2 : Nat) =
      ((whole : Int) - part) / 2 + if whole % 2 = 0 ∧ part % 2 = 1 then 1 else 0 := by
  split <;> omega

namespace Grid

variable {width height : Nat}

/-! ## Stamps onto blanks -/

private theorem overlay_blank_transparent (s : Grid) (hw : 0 < width) (hh : 0 < height)
    (row col : Int) :
    (blank width height hw hh).overlay s row col none true =
      (blank width height hw hh).overlay s row col none false := by
  refine ext_cellAt (by rw [width_overlay, width_overlay]) (by rw [height_overlay, height_overlay])
    fun i j hi hj ↦ ?_
  rw [height_overlay] at hi
  rw [width_overlay] at hj
  rw [cellAt_overlay _ _ _ _ _ _ hi hj, cellAt_overlay _ _ _ _ _ _ hi hj, cellAt_blank]
  cases s.cell? (i - row) (j - col) with
  | none => rfl
  | some c => by_cases hc : c = Cell.blank <;> simp [stamped, hc]

private theorem clip_overlay_blank (g : Grid) (hw : 0 < width) (hh : 0 < height) {row col : Int}
    (hrow : 0 ≤ row ∧ row + g.height ≤ height) (hcol : 0 ≤ col ∧ col + g.width ≤ width) :
    ((blank width height hw hh).overlay g row col none true).clip row (row + g.height) col
      (col + g.width) = g := by
  rw [overlay_blank_transparent]
  exact clip_overlay hrow hcol

/-- **Padding.** It is a stamp onto blanks, in the middle of the given width. -/
theorem centerHorizontally_eq_overlay {g : Grid} (hw : 0 < width) (h : g.width ≤ width) :
    g.centerHorizontally width =
      (blank width g.height hw g.height_pos).overlay g 0 (((width : Int) - g.width) / 2)
        none true := by
  obtain ⟨pad, hpad⟩ := Int.eq_ofNat_of_zero_le (show 0 ≤ ((width : Int) - g.width) / 2 by omega)
  have hwide : (g.centerHorizontally width).width = width := Nat.max_eq_right h
  have htall : (g.centerHorizontally width).height = g.height := rfl
  refine ext_cellAt (by rw [hwide, width_overlay, blank, width_build])
    (by rw [htall, height_overlay, blank, height_build]) fun i j hi hj ↦ ?_
  have hi : i < g.height := hi
  have hcell : (g.centerHorizontally width).cellAt i j =
      if (((width : Int) - g.width) / 2).toNat ≤ j then
        g.cellAt i (j - (((width : Int) - g.width) / 2).toNat) else Cell.blank :=
    cellAt_build hi hj
  rw [hwide] at hj
  have hstamp := cellAt_overlay_blank (blank width g.height hw g.height_pos) g 0 pad hi hj
    fun _ _ ↦ cellAt_blank i j
  rw [hcell, hpad, Int.toNat_natCast]
  refine Eq.trans ?_ hstamp.symm
  simp only [cellAt_blank, Nat.sub_zero, Nat.zero_le, true_and]

end Grid

/-! ## Places -/

namespace Anchor

/-- In the middle a shape has half of what is left over before it, and one more for an odd shape on
an even canvas. -/
theorem origin_center (canvas shape : Grid) :
    center.origin canvas shape 0 0 =
      (((canvas.height : Int) - shape.height) / 2 +
          (if canvas.height % 2 = 0 ∧ shape.height % 2 = 1 then 1 else 0),
        ((canvas.width : Int) - shape.width) / 2 +
          (if canvas.width % 2 = 0 ∧ shape.width % 2 = 1 then 1 else 0)) := by
  rw [← half_sub_half, ← half_sub_half]
  exact Prod.ext (Int.add_zero _) (Int.add_zero _)

private theorem origin_fits (anchor : Anchor) (canvas : Grid) {shape : Grid}
    (hw : shape.width ≤ canvas.width) (hh : shape.height ≤ canvas.height) :
    let place := anchor.origin canvas shape 0 0
    (0 ≤ place.1 ∧ place.1 + shape.height ≤ canvas.height) ∧
      0 ≤ place.2 ∧ place.2 + shape.width ≤ canvas.width := by
  cases anchor <;> simp only [origin, Grid.center] <;> omega

end Anchor

namespace Composite

open Grid (letters)

variable {ι : Type}

private theorem canvas_addShape (c : Composite ι) (mark : ι) (shape : Grid) (anchor : Anchor)
    (down across : Int) (char : Option Cell) {place : Int × Int}
    (h : anchor.origin c.canvas shape down across = place) :
    (c.addShape mark shape anchor down across char).canvas =
      c.canvas.overlay shape place.1 place.2 char true := by
  subst h
  rfl

/-- In the middle of a canvas of its own height a grid is stamped where padding puts it, unless its
width is odd and that of the canvas even. -/
theorem canvas_addShape_center (mark : ι) {g : Grid} {width : Nat} (hw : 0 < width)
    (hparity : ¬(width % 2 = 0 ∧ g.width % 2 = 1)) :
    ((ofGrid (.blank width g.height hw g.height_pos)).addShape mark g .center 0 0 none).canvas =
      (Grid.blank width g.height hw g.height_pos).overlay g 0 (((width : Int) - g.width) / 2)
        none true := by
  have hplace : Anchor.center.origin (.blank width g.height hw g.height_pos) g 0 0 =
      (0, ((width : Int) - g.width) / 2) := by
    -- nothing is left over above the grid, and no column is added on its left
    rw [Anchor.origin_center, Grid.blank, Grid.height_build, Grid.width_build, if_neg hparity,
      if_neg (by omega), Int.sub_self, Int.add_zero, Int.add_zero]
    rfl
  exact canvas_addShape (ofGrid (.blank width g.height hw g.height_pos)) mark g .center 0 0 none
    hplace

/-- **Shapes that fit.** On a fresh canvas that is no smaller than a grid, every anchor places the
grid inside, so that it can be cut out again. In the middle it has half of what is left over on its
left and above it, rounded down, and one more just if an odd grid stands on an even canvas. So on a
canvas of the height of the grid it is the padded grid, unless its width is odd and that of the
canvas even. The padded grid holds all of the grid too. -/
theorem requestShape_fits (mark : ι) {g : Grid} {width height : Nat}
    (hw : g.width ≤ width) (hh : g.height ≤ height) :
    ∃ canvas padded : Grid,
      Grid.requestNew (.int width) (.int height) = .ok canvas ∧
      g.requestCenter (.int width) = .ok padded ∧
      (∀ anchor : Anchor, ∃ (placed : Composite ι) (row col : Int),
        (ofGrid canvas : Composite ι).requestShape mark g (.str anchor.name) (.int 0) (.int 0)
          .null = .ok placed ∧
        placed.layers.map (fun layer ↦ (layer.row, layer.col)) = [(.whole row, .whole col)] ∧
        ((0 ≤ row ∧ row + g.height ≤ height) ∧ 0 ≤ col ∧ col + g.width ≤ width) ∧
        placed.canvas.requestClip (.int row) (.int (row + g.height)) (.int col)
          (.int (col + g.width)) = .ok g ∧
        (anchor = .center →
          row = ((height : Int) - g.height) / 2 +
            (if height % 2 = 0 ∧ g.height % 2 = 1 then 1 else 0) ∧
          col = ((width : Int) - g.width) / 2 +
            (if width % 2 = 0 ∧ g.width % 2 = 1 then 1 else 0) ∧
          (height = g.height → ¬(width % 2 = 0 ∧ g.width % 2 = 1) → placed.canvas = padded))) ∧
      let pad := ((width : Int) - g.width) / 2
      padded.requestClip (.int 0) (.int g.height) (.int pad) (.int (pad + g.width)) = .ok g := by
  have hwidth : 0 < width := Nat.lt_of_lt_of_le g.width_pos hw
  have hheight : 0 < height := Nat.lt_of_lt_of_le g.height_pos hh
  have hpadded := Grid.centerHorizontally_eq_overlay hwidth hw
  refine ⟨.blank width height hwidth hheight, g.centerHorizontally width,
    Shape.requestNew_positive ⟨width, hwidth⟩ ⟨height, hheight⟩, rfl, fun anchor ↦ ?_, ?_⟩
  · have hfits := anchor.origin_fits (.blank width height hwidth hheight) hw hh
    refine ⟨_, _, _, requestShape_name _ mark g anchor 0 0 none, rfl, hfits, ?_, ?_⟩
    · rw [Grid.requestClip_int]
      exact congrArg Except.ok (Grid.clip_overlay_blank g hwidth hheight hfits.1 hfits.2)
    · rintro rfl
      have hplace := Anchor.origin_center (.blank width height hwidth hheight) g
      refine ⟨congrArg Prod.fst hplace, congrArg Prod.snd hplace, ?_⟩
      intro hsame hparity
      subst hsame
      exact (canvas_addShape_center mark hwidth hparity).trans hpadded.symm
  · intro pad
    have hrow : (0 : Int) ≤ 0 ∧ 0 + (g.height : Int) ≤ g.height := by omega
    have hcol : 0 ≤ pad ∧ pad + g.width ≤ width := by omega
    have hclip := Grid.clip_overlay_blank g hwidth g.height_pos hrow hcol
    rw [Int.zero_add] at hclip
    rw [hpadded, Grid.requestClip_int, hclip]

/-- In the middle of an even canvas the odd row has one more column on its left than on its right,
and one more row above it than below. In the middle of an odd canvas of one row it is the padded
row. -/
theorem letters_requestShape_fits :
    (letters.width ≤ 6 ∧ letters.height ≤ 4 ∧ letters.width ≤ 7 ∧ letters.height ≤ 1) ∧
    (∃ (canvas : Grid) (placed : Composite Unit),
      Grid.requestNew (.int 6) (.int 4) = .ok canvas ∧
      (ofGrid canvas : Composite Unit).requestShape () letters (.str Anchor.center.name) (.int 0)
        (.int 0) .null = .ok placed ∧
      placed.layers.map (fun layer ↦ (layer.row, layer.col)) = [(.whole 2, .whole 2)] ∧
      placed.canvas.requestClip (.int 2) (.int 3) (.int 2) (.int 5) = .ok letters) ∧
    ∃ (canvas padded : Grid) (placed : Composite Unit),
      Grid.requestNew (.int 7) (.int 1) = .ok canvas ∧ letters.requestCenter (.int 7) = .ok padded ∧
      (ofGrid canvas : Composite Unit).requestShape () letters (.str Anchor.center.name) (.int 0)
        (.int 0) .null = .ok placed ∧
      placed.canvas = padded ∧
      padded.requestClip (.int 0) (.int 1) (.int 2) (.int 5) = .ok letters := by
  have hsize : letters.width ≤ 6 ∧ letters.height ≤ 4 ∧ letters.width ≤ 7 ∧ letters.height ≤ 1 := by
    decide
  refine ⟨hsize, ?_, ?_⟩
  · obtain ⟨canvas, padded, hcanvas, -, hplaced, -⟩ := requestShape_fits () hsize.1 hsize.2.1
    obtain ⟨placed, row, col, hrequest, hlayers, -, hclip, hcenter⟩ := hplaced .center
    obtain ⟨rfl, rfl, -⟩ := hcenter rfl
    exact ⟨canvas, placed, hcanvas, hrequest, hlayers, hclip⟩
  · obtain ⟨canvas, padded, hcanvas, hpadded, hplaced, hclip⟩ :=
      requestShape_fits () hsize.2.2.1 hsize.2.2.2
    obtain ⟨placed, row, col, hrequest, -, -, -, hcenter⟩ := hplaced .center
    exact ⟨canvas, padded, placed, hcanvas, hpadded, hrequest,
      (hcenter rfl).2.2 rfl (by decide), hclip⟩

end Composite

end TextArt
