import TextArt.Grid.Request
import TextArt.Proofs.Fields

/-!
# Requests for stamps

With whole numbers for its place a stamp can fail only because of its character, and it is the typed
operation otherwise.
-/

namespace TextArt.Grid

theorem optionalCell_ofText? (char : Option Cell) :
    optionalCell (.ofText? (char.map Text.singleton)) = .ok char := by
  cases char with
  | none => rfl
  | some c =>
    change (do let c ← (Value.str (Text.singleton c)).cell; .ok (some c)) = _
    rw [Value.cell_singleton]
    rfl

theorem requestOverlay_whole (target source : Grid) (row col : Int) (char transparent : Value) :
    target.requestOverlay source (.int row) (.int col) char transparent =
      (optionalCell char).map fun c ↦ target.overlay source row col c transparent.truthy := by
  unfold requestOverlay
  cases optionalCell char <;> rfl

theorem requestOverlay_int (target source : Grid) (row col : Int) (char : Option Cell)
    (transparent : Bool) :
    target.requestOverlay source (.int row) (.int col) (.ofText? (char.map Text.singleton))
      (.bool transparent) = .ok (target.overlay source row col char transparent) := by
  rw [requestOverlay_whole, optionalCell_ofText?]
  rfl

/-! ## The cells under a stamp -/

/-- The cell of a target under a stamp of the source: the source's cell that comes to lie on it, or
the character instead, if that cell is there and shows; or else the old cell. -/
def cellUnder (source : Grid) (row col : Int) (char : Option Cell) (transparent : Bool)
    (old : Cell) (i j : Nat) : Cell :=
  match source.cell? (i - row) (j - col) with
  | some stamp => if transparent = false ∨ stamp ≠ Cell.blank then char.getD stamp else old
  | none => old

theorem cellAt_overlay_eq_cellUnder (t s : Grid) (row col : Int) (char : Option Cell) (b : Bool)
    {i j : Nat} (hi : i < t.height) (hj : j < t.width) :
    (t.overlay s row col char b).cellAt i j = cellUnder s row col char b (t.cellAt i j) i j := by
  rw [cellAt_overlay t s row col char b hi hj, cellUnder]
  cases s.cell? (i - row) (j - col) with
  | none => rfl
  | some stamp => cases b <;> simp [stamped, ite_not]

/-! ## Places inside and outside -/

theorem cell?_of_inside (g : Grid) {row col : Int}
    (h : 0 ≤ row ∧ row < g.height ∧ 0 ≤ col ∧ col < g.width) :
    g.cell? row col = some (g.cellAt row.toNat col.toNat) := by
  rw [cell?, inBounds, if_pos (decide_eq_true h)]

theorem cell?_of_outside (g : Grid) {row col : Int}
    (h : ¬(0 ≤ row ∧ row < g.height ∧ 0 ≤ col ∧ col < g.width)) : g.cell? row col = none := by
  rw [cell?, inBounds, decide_eq_false h, if_neg Bool.false_ne_true]

/-- Grids of one size that agree at every place are equal. -/
theorem ext_cell? {g h : Grid} (hw : g.width = h.width) (hh : g.height = h.height)
    (hcell : ∀ row col : Int, g.cell? row col = h.cell? row col) : g = h := by
  refine ext_cellAt hw hh fun row col hr hc ↦ ?_
  have hplace := hcell row col
  rw [cell?_natCast g hr hc, cell?_natCast h (hh ▸ hr) (hw ▸ hc)] at hplace
  exact Option.some.inj hplace

/-- A stamped grid at any place. -/
theorem cell?_overlay (t s : Grid) (row col : Int) (char : Option Cell) (b : Bool) (i j : Int) :
    (t.overlay s row col char b).cell? i j =
      (t.cell? i j).map fun old ↦ stamped char b old (s.cell? (i - row) (j - col)) := by
  by_cases hinside : 0 ≤ i ∧ i < t.height ∧ 0 ≤ j ∧ j < t.width
  · have hi : (i.toNat : Int) = i := Int.toNat_of_nonneg hinside.1
    have hj : (j.toNat : Int) = j := Int.toNat_of_nonneg hinside.2.2.1
    rw [cell?_of_inside t hinside, cell?_of_inside _ (by simpa using hinside),
      cellAt_overlay t s row col char b (by omega) (by omega), hi, hj]
    rfl
  · rw [cell?_of_outside t hinside, cell?_of_outside _ (by simpa using hinside)]
    rfl

/-! ## Blank and drawn cells -/

theorem cellAt_of_outside (g : Grid) {row col : Nat} (h : ¬(row < g.height ∧ col < g.width)) :
    g.cellAt row col = Cell.blank := by
  by_cases hrow : row < g.height
  · exact cellAt_of_width_le g (Nat.not_lt.1 fun hcol ↦ h ⟨hrow, hcol⟩)
  · exact cellAt_of_height_le g (Nat.not_lt.1 hrow)

theorem lt_of_drawn {g : Grid} {row col : Nat} (h : g.cellAt row col ≠ Cell.blank) :
    row < g.height ∧ col < g.width :=
  Decidable.byContradiction fun hout ↦ h (cellAt_of_outside g hout)

@[simp] theorem cellAt_blank {w h hw hh} (i j : Nat) :
    (blank w h hw hh).cellAt i j = Cell.blank := by
  by_cases hinside : i < h ∧ j < w
  · exact cellAt_build hinside.1 hinside.2
  · exact cellAt_of_outside _ hinside

/-- What a transparent stamp of a grid as it is leaves on a blank cell: the cell of the grid that
lies there, which is blank beside the grid. -/
theorem cellAt_overlay_blank (t s : Grid) (top left : Nat) {i j : Nat} (hi : i < t.height)
    (hj : j < t.width) (hblank : top ≤ i → left ≤ j → t.cellAt i j = Cell.blank) :
    (t.overlay s top left none true).cellAt i j =
      if top ≤ i ∧ left ≤ j then s.cellAt (i - top) (j - left) else t.cellAt i j := by
  rw [cellAt_overlay t s top left none true hi hj]
  split
  · next hafter =>
    have hrow : (i : Int) - top = (i - top : Nat) := by omega
    have hcol : (j : Int) - left = (j - left : Nat) := by omega
    rw [hrow, hcol, hblank hafter.1 hafter.2]
    by_cases hinside : i - top < s.height ∧ j - left < s.width
    · rw [cell?_natCast s hinside.1 hinside.2, stamped]
      by_cases hs : s.cellAt (i - top) (j - left) = Cell.blank <;> simp [hs]
    · rw [cell?_of_outside s (by omega), stamped, cellAt_of_outside s hinside]
  · next hbefore => rw [cell?_of_outside s (by omega), stamped]

end TextArt.Grid
