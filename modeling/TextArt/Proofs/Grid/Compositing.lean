import TextArt.Proofs.Grid.Stamping

/-!
# Layers on layers

A transparent stamp shows what is drawn on its source and lets everything else through. So all that
counts of a source is its marks, the cells that are not blank (`Grid.mark?`): after a stamp, a place
of the target shows the mark of the source that comes to lie on it, if there is one, and else what
it showed before (`cell?_overlay_mark?`). The marks of two layers that are put together first are
those of the upper one and, where it has none, those of the lower one (`mark?_overlay`), as long as
the lower one does not cut the upper one off.

Whether the layers are cut off by the grid on which both end up makes no difference to any of this.
-/

namespace TextArt.Grid

variable {target lower upper : Grid} {row col row' col' : Int}

/-! ## Marks -/

/-- What is drawn at a place: nothing where the grid is blank, and nothing outside. -/
def mark? (g : Grid) (row col : Int) : Option Cell := (g.cell? row col).filter (· != Cell.blank)

/-- All marks of a grid that is stamped onto another one come to lie inside it. -/
def MarksInside (source target : Grid) (row col : Int) : Prop :=
  ∀ i < source.height, ∀ j < source.width, source.cellAt i j ≠ Cell.blank →
    target.inBounds (i + row) (j + col) = true

instance (source target : Grid) (row col : Int) : Decidable (source.MarksInside target row col) :=
  inferInstanceAs (Decidable (∀ i < source.height, ∀ j < source.width, _ → _))

/-- No cell of a grid gets a mark of both of two grids that are stamped onto it. -/
def MarksApart (target lower : Grid) (row col : Int) (upper : Grid) (row' col' : Int) : Prop :=
  ∀ i < target.height, ∀ j < target.width,
    lower.mark? (i - row) (j - col) = none ∨ upper.mark? (i - row') (j - col') = none

instance (target lower : Grid) (row col : Int) (upper : Grid) (row' col' : Int) :
    Decidable (target.MarksApart lower row col upper row' col') :=
  inferInstanceAs (Decidable (∀ i < target.height, ∀ j < target.width, _ ∨ _))

theorem mark?_of_outside {g : Grid} (h : g.inBounds row col = false) : g.mark? row col = none := by
  rw [mark?, cell?, h, if_neg Bool.false_ne_true, Option.filter_none]

private theorem MarksInside.inBounds (h : upper.MarksInside lower row col) {i j : Int}
    (hmark : upper.mark? (i - row) (j - col) ≠ none) : lower.inBounds i j = true := by
  have hinside : upper.inBounds (i - row) (j - col) = true := by
    rw [← Bool.not_eq_false]
    exact fun houtside ↦ hmark (mark?_of_outside houtside)
  have hbounds := hinside
  simp only [Grid.inBounds, decide_eq_true_eq] at hbounds
  have hrow : ((i - row).toNat : Int) + row = i := by omega
  have hcol : ((j - col).toNat : Int) + col = j := by omega
  have hlands := h (i - row).toNat (by omega) (j - col).toNat (by omega)
  rw [hrow, hcol] at hlands
  refine hlands fun hblank ↦ hmark ?_
  rw [mark?, cell?, if_pos hinside, hblank]
  rfl

/-! ## Stamps and marks -/

private theorem stamped_transparent (old : Cell) (source : Option Cell) :
    stamped none true old source = (source.filter (· != Cell.blank)).getD old := by
  cases source with
  | none => rfl
  | some c => by_cases hc : c = Cell.blank <;> simp [stamped, Option.filter_some, hc]

theorem cell?_overlay_mark? (target source : Grid) (row col i j : Int) :
    (target.overlay source row col none true).cell? i j =
      (target.cell? i j).map ((source.mark? (i - row) (j - col)).getD ·) := by
  rw [cell?_overlay]
  exact congrArg (Option.map · _) (funext fun old ↦ stamped_transparent old _)

private theorem mark?_overlay (h : upper.MarksInside lower row col) (i j : Int) :
    (lower.overlay upper row col none true).mark? i j =
      (upper.mark? (i - row) (j - col)).or (lower.mark? i j) := by
  rw [mark?, cell?_overlay_mark?]
  cases hinside : lower.inBounds i j with
  | false =>
    have hupper : upper.mark? (i - row) (j - col) = none := by
      by_cases hmark : upper.mark? (i - row) (j - col) = none
      · exact hmark
      · rw [h.inBounds hmark] at hinside
        cases hinside
    rw [hupper, mark?_of_outside hinside, cell?, hinside, if_neg Bool.false_ne_true]
    rfl
  | true =>
    have hcell : lower.cell? i j = some (lower.cellAt i.toNat j.toNat) := if_pos hinside
    rw [mark?, mark?, hcell, Option.map_some]
    cases upper.cell? (i - row) (j - col) with
    | none => rfl
    | some c => by_cases hc : c = Cell.blank <;> simp [Option.filter_some, hc]

private theorem overlay_assoc (target : Grid) (h : upper.MarksInside lower row' col')
    (row col : Int) :
    target.overlay (lower.overlay upper row' col' none true) row col none true =
      (target.overlay lower row col none true).overlay upper (row + row') (col + col')
        none true := by
  refine ext_cell? (by simp) (by simp) fun i j ↦ ?_
  rw [cell?_overlay_mark?, cell?_overlay_mark?, cell?_overlay_mark?, mark?_overlay h,
    Int.sub_sub, Int.sub_sub, Option.map_map]
  refine congrArg (Option.map · _) (funext fun old ↦ ?_)
  rw [Option.getD_or, Function.comp_apply]

private theorem overlay_comm (h : target.MarksApart lower row col upper row' col') :
    (target.overlay lower row col none true).overlay upper row' col' none true =
      (target.overlay upper row' col' none true).overlay lower row col none true := by
  refine ext_cellAt (by simp) (by simp) fun i j hi hj ↦ ?_
  rw [width_overlay, width_overlay] at hj
  rw [height_overlay, height_overlay] at hi
  rw [← Option.some_inj, ← cell?_natCast _ (by simpa using hi) (by simpa using hj),
    ← cell?_natCast _ (by simpa using hi) (by simpa using hj), cell?_overlay_mark?,
    cell?_overlay_mark?, cell?_overlay_mark?, cell?_overlay_mark?, Option.map_map, Option.map_map]
  refine congrArg (Option.map · _) (funext fun old ↦ ?_)
  rw [Function.comp_apply, Function.comp_apply]
  rcases h i hi j hj with hlower | hupper
  · rw [hlower]
    rfl
  · rw [hupper]
    rfl

/-- **Layers on layers.** Transparent stamps are associative: two layers may be put together before
they are stamped, if the lower one does not cut off what is drawn on the upper one. And stamps that
do not meet on the target commute. The places are any whole numbers. -/
theorem overlay_assoc_and_comm (target lower upper : Grid) (row col row' col' : Int) :
    (upper.MarksInside lower row' col' →
      target.overlay (lower.overlay upper row' col' none true) row col none true =
        (target.overlay lower row col none true).overlay upper (row + row') (col + col')
          none true) ∧
    (target.MarksApart lower row col upper row' col' →
      (target.overlay lower row col none true).overlay upper row' col' none true =
        (target.overlay upper row' col' none true).overlay lower row col none true) :=
  ⟨fun hinside ↦ overlay_assoc target hinside row col, overlay_comm⟩

/-- A square of four cells, all but the upper right one marked. -/
def stairs : Grid :=
  build 2 2 Nat.two_pos Nat.two_pos fun i j ↦ if i = 0 ∧ j = 1 then Cell.blank else '#'

/-- A mark with two blanks after it. -/
def dash : Grid :=
  build 3 1 (Nat.succ_pos 2) Nat.one_pos fun _ j ↦ if j = 0 then '-' else Cell.blank

/-- The mark is put on the lower left step and its blanks stick out; the row on which both end up
cuts off the upper step. Beside the steps the mark may be stamped before or after them. -/
theorem stairs_overlay_dash :
    let row := blank 3 1 (Nat.succ_pos 2) Nat.one_pos
    (dash.MarksInside stairs 1 0 ∧ row.MarksApart stairs (-1) 1 dash 0 0) ∧
    row.overlay (stairs.overlay dash 1 0 none true) (-1) 1 none true =
      (row.overlay stairs (-1) 1 none true).overlay dash 0 1 none true ∧
    ((row.overlay stairs (-1) 1 none true).overlay dash 0 1 none true).rowCells 0 =
      [.char ' ', .char '-', .char '#'] ∧
    (row.overlay stairs (-1) 1 none true).overlay dash 0 0 none true =
      (row.overlay dash 0 0 none true).overlay stairs (-1) 1 none true := by
  intro row
  have hinside : dash.MarksInside stairs 1 0 := by decide
  have hapart : row.MarksApart stairs (-1) 1 dash 0 0 := by decide
  exact ⟨⟨hinside, hapart⟩, (overlay_assoc_and_comm row stairs dash (-1) 1 1 0).1 hinside,
    by decide +kernel, (overlay_assoc_and_comm row stairs dash (-1) 1 0 0).2 hapart⟩

end TextArt.Grid
