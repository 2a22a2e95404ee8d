import TextArt.Grid.Line
import TextArt.Grid.Overlay
import TextArt.Grid.Transform

/-!
# Legible grids

A grid is written out row by row, so a cell is shown as it is unless it is hidden or holds a line
feed. A grid without such cells is *legible*. Every operation that only moves cells about makes
legible grids out of legible ones, and so does drawing with a legible character: each new cell is an
old one, the character, or a blank.
-/

namespace TextArt

/-- The cell is shown in its row as it is. -/
def Cell.Legible (c : Cell) : Prop := c ≠ Cell.hidden ∧ c ≠ '\n'

instance (c : Cell) : Decidable c.Legible := inferInstanceAs (Decidable (_ ∧ _))

theorem Cell.legible_blank : Cell.blank.Legible := by decide

theorem Cell.legible_of_all {cells : List Cell}
    (h : (cells.all fun c ↦ decide c.Legible) = true) : ∀ c ∈ cells, c.Legible :=
  fun c hc ↦ of_decide_eq_true (List.all_eq_true.1 h c hc)

namespace Grid

variable {g : Grid}

/-- All cells are legible. -/
def Legible (g : Grid) : Prop := ∀ row col, (g.cellAt row col).Legible

/-- Only the cells inside count, since there are blanks all around them. -/
theorem legible_of_inside
    (h : ∀ row col, row < g.height → col < g.width → (g.cellAt row col).Legible) : g.Legible := by
  intro row col
  by_cases hr : row < g.height
  · by_cases hc : col < g.width
    · exact h row col hr hc
    · rw [cellAt_of_width_le g (Nat.not_lt.1 hc)]
      exact Cell.legible_blank
  · rw [cellAt_of_height_le g (Nat.not_lt.1 hr)]
    exact Cell.legible_blank

private theorem legible_of_cell? (hg : g.Legible) {row col : Int} {c : Cell}
    (h : g.cell? row col = some c) : c.Legible := by
  unfold cell? at h
  split at h
  · obtain rfl := Option.some.inj h
    exact hg _ _
  · cases h

/-! ## Building and changing -/

theorem legible_build {w h : Nat} {hw : 0 < w} {hh : 0 < h} {f : Nat → Nat → Cell}
    (hf : ∀ row col, row < h → col < w → (f row col).Legible) : (build w h hw hh f).Legible := by
  refine legible_of_inside fun row col hr hc ↦ ?_
  rw [height_build] at hr
  rw [width_build] at hc
  rw [cellAt_build hr hc]
  exact hf row col hr hc

theorem legible_blank (w h : Nat) (hw : 0 < w) (hh : 0 < h) : (blank w h hw hh).Legible :=
  legible_build fun _ _ _ _ ↦ Cell.legible_blank

theorem legible_single : single.Legible := legible_blank _ _ _ _

theorem legible_square (radius : Nat) : (square radius).Legible := legible_blank _ _ _ _

theorem legible_mapCells {f : Nat → Nat → Cell → Cell} (hg : g.Legible)
    (hf : ∀ row col old, old.Legible → (f row col old).Legible) : (g.mapCells f).Legible :=
  legible_build fun row col _ _ ↦ hf row col _ (hg row col)

theorem legible_drawPoints (hg : g.Legible) (points : List Point) {c : Cell} (hc : c.Legible) :
    (g.drawPoints points c).Legible := by
  refine legible_of_inside fun i j hi hj ↦ ?_
  rw [height_drawPoints] at hi
  rw [width_drawPoints] at hj
  rw [cellAt_drawPoints g points c hi hj]
  split
  · exact hc
  · exact hg i j

/-! ## Stamping and cutting out -/

theorem legible_overlay {source : Grid} (hg : g.Legible) (hs : source.Legible) (row col : Int)
    {char : Option Cell} (hchar : ∀ c ∈ char, c.Legible) (transparent : Bool) :
    (g.overlay source row col char transparent).Legible := by
  refine legible_of_inside fun i j hi hj ↦ ?_
  rw [height_overlay] at hi
  rw [width_overlay] at hj
  rw [cellAt_overlay g source row col char transparent hi hj]
  cases hstamp : source.cell? (i - row) (j - col) with
  | none => exact hg i j
  | some stamp =>
    rw [stamped]
    split
    · exact hg i j
    · cases char with
      | none => exact legible_of_cell? hs hstamp
      | some c => exact hchar c rfl

theorem legible_clip (hg : g.Legible) (startRow endRow startCol endCol : Int) :
    (g.clip startRow endRow startCol endCol).Legible := by
  unfold clip
  dsimp only
  split
  · exact legible_build fun _ _ _ _ ↦ hg _ _
  · exact legible_single

theorem legible_centerHorizontally (hg : g.Legible) (targetWidth : Int) :
    (g.centerHorizontally targetWidth).Legible := by
  refine legible_build fun i j _ _ ↦ ?_
  split
  · exact hg _ _
  · exact Cell.legible_blank

/-! ## Turning, mirroring and scaling -/

theorem legible_apply (hg : g.Legible) (t : Transform) : (g.apply t).Legible := by
  cases t with
  | rotate turn => cases turn <;> exact legible_build fun _ _ _ _ ↦ hg _ _
  | mirror axis => cases axis <;> exact legible_build fun _ _ _ _ ↦ hg _ _
  | scale size => cases size <;> exact legible_build fun _ _ _ _ ↦ hg _ _

end Grid

end TextArt
