import TextArt.Grid.Slice

/-!
# Stamping and cutting out

`Grid.overlay` stamps one grid onto another, `Grid.clip` cuts a region out, and
`Grid.centerHorizontally` pads a grid on both sides.
-/

namespace TextArt

namespace Grid

/-! ## Stamping -/

/-- Stamps a grid with its first cell at the given place. What falls outside the target is skipped.
A transparent stamp leaves the target untouched where the source is blank; a character, if there is
one, takes the place of all that is stamped. -/
def overlay (target source : Grid) (row col : Int) (char : Option Cell) (transparent : Bool) :
    Grid :=
  let top := max row 0
  let left := max col 0
  let bottom := min (row + source.height) target.height
  let right := min (col + source.width) target.width
  if bottom ≤ top ∨ right ≤ left then target
  else
    let window := source.window (top - row) (bottom - row) (left - col) (right - col)
    let mask := window.map (List.map fun c ↦ !(transparent && c == Cell.blank))
    let taken := Mask.chosenRows mask window
    let values := match char with
      | none => taken
      | some c => List.replicate taken.length c
    target.setWindow top bottom left right
      (Mask.storeRows mask (target.window top bottom left right) values)

@[simp] theorem width_overlay (t s : Grid) (row col : Int) (char : Option Cell) (b : Bool) :
    (t.overlay s row col char b).width = t.width := by
  unfold overlay; dsimp only; split <;> rfl

@[simp] theorem height_overlay (t s : Grid) (row col : Int) (char : Option Cell) (b : Bool) :
    (t.overlay s row col char b).height = t.height := by
  unfold overlay; dsimp only; split <;> rfl

/-- What a cell holds once a stamp has covered it. -/
def stamped (char : Option Cell) (transparent : Bool) (old : Cell) : Option Cell → Cell
  | none => old
  | some stamp => if transparent && stamp == Cell.blank then old else char.getD stamp

/-- The values to store are made of the cells that are taken, one by one. -/
theorem values_eq (char : Option Cell) (mask : List (List Bool)) (window : List (List Cell)) :
    (match char with
      | none => Mask.chosenRows mask window
      | some c => List.replicate (Mask.chosenRows mask window).length c) =
      Mask.chosenRows mask (window.map (List.map char.getD)) := by
  rw [Mask.chosenRows_map]
  cases char with
  | none => exact (List.map_id _).symm
  | some c => exact List.map_const'.symm

/-- A window of the source that is stamped onto a window of the target of the same size. -/
theorem cellAt_setWindow_stamped {t s : Grid} {top bottom left right up back : Nat}
    (htop : top ≤ bottom) (hbottom : bottom ≤ t.height) (hleft : left ≤ right)
    (hright : right ≤ t.width) (hup : up + (bottom - top) ≤ s.height)
    (hback : back + (right - left) ≤ s.width) (char : Option Cell) (transparent : Bool)
    {i j : Nat} (hi : i < t.height) (hj : j < t.width) :
    let window := s.window up (up + (bottom - top) : Nat) back (back + (right - left) : Nat)
    let mask := window.map (List.map fun c ↦ !(transparent && c == Cell.blank))
    (t.setWindow top bottom left right (Mask.storeRows mask (t.window top bottom left right)
        (Mask.chosenRows mask (window.map (List.map char.getD))))).cellAt i j =
      if (top ≤ i ∧ i < bottom) ∧ left ≤ j ∧ j < right then
        stamped char transparent (t.cellAt i j)
          (some (s.cellAt (up + (i - top)) (back + (j - left))))
      else t.cellAt i j := by
  intro window mask
  have hwindow : window = (List.range (bottom - top)).map fun i ↦
      (List.range (right - left)).map fun j ↦ s.cellAt (up + i) (back + j) := by
    have hrows : up + (bottom - top) - up = bottom - top := by omega
    have hcols : back + (right - left) - back = right - left := by omega
    rw [← hrows, ← hcols]
    exact window_eq (Nat.le_add_right _ _) hup (Nat.le_add_right _ _) hback
  simp only [mask, hwindow]
  rw [window_eq htop hbottom hleft hright, Mask.storeRows_chosenRows _ (fun _ _ ↦ by simp)]
  simp only [List.zipWith_map, List.zipWith_self]
  rw [cellAt_setWindow htop hbottom hleft hright (fun i j ↦
    if !(transparent && s.cellAt (up + i) (back + j) == Cell.blank) then
      char.getD (s.cellAt (up + i) (back + j))
    else t.cellAt (top + i) (left + j)) hi hj]
  split
  · next hinside =>
    have hrow : top + (i - top) = i := by omega
    have hcol : left + (j - left) = j := by omega
    simp only [stamped, hrow, hcol]
    cases transparent && s.cellAt (up + (i - top)) (back + (j - left)) == Cell.blank <;> rfl
  · rfl

/-- **Stamping cell by cell.** Every cell of the target is decided by the cell of the source that
comes to lie on it. -/
theorem cellAt_overlay (t s : Grid) (row col : Int) (char : Option Cell) (b : Bool) {i j : Nat}
    (hi : i < t.height) (hj : j < t.width) :
    (t.overlay s row col char b).cellAt i j =
      stamped char b (t.cellAt i j) (s.cell? (i - row) (j - col)) := by
  unfold overlay
  dsimp only
  split
  · next hempty =>
    -- no cell of the source comes to lie on the target
    rw [cell?, if_neg, stamped]
    simp only [inBounds, decide_eq_true_eq]
    omega
  · next hmeet =>
    -- the bounds of both windows are natural numbers, and the windows have the same size
    obtain ⟨top, htop⟩ := Int.eq_ofNat_of_zero_le (show 0 ≤ max row 0 by omega)
    obtain ⟨left, hleft⟩ := Int.eq_ofNat_of_zero_le (show 0 ≤ max col 0 by omega)
    obtain ⟨bottom, hbottom⟩ :=
      Int.eq_ofNat_of_zero_le (show 0 ≤ min (row + s.height) t.height by omega)
    obtain ⟨right, hright⟩ :=
      Int.eq_ofNat_of_zero_le (show 0 ≤ min (col + s.width) t.width by omega)
    obtain ⟨up, hup⟩ := Int.eq_ofNat_of_zero_le (show 0 ≤ max row 0 - row by omega)
    obtain ⟨back, hback⟩ := Int.eq_ofNat_of_zero_le (show 0 ≤ max col 0 - col by omega)
    have hdown : min (row + s.height) t.height - row = (up + (bottom - top) : Nat) := by omega
    have hacross : min (col + s.width) t.width - col = (back + (right - left) : Nat) := by omega
    rw [hup, hback, hdown, hacross, htop, hleft, hbottom, hright]
    have hcell := cellAt_setWindow_stamped (t := t) (s := s) (show top ≤ bottom by omega)
      (show bottom ≤ t.height by omega) (show left ≤ right by omega)
      (show right ≤ t.width by omega) (show up + (bottom - top) ≤ s.height by omega)
      (show back + (right - left) ≤ s.width by omega) char b hi hj
    dsimp only at hcell
    rw [values_eq, hcell]
    by_cases hinside : (top ≤ i ∧ i < bottom) ∧ left ≤ j ∧ j < right
    · have hsource : s.cell? (i - row) (j - col) =
          some (s.cellAt (up + (i - top)) (back + (j - left))) := by
        have hrow : (i : Int) - row = (up + (i - top) : Nat) := by omega
        have hcol : (j : Int) - col = (back + (j - left) : Nat) := by omega
        rw [hrow, hcol, cell?_natCast s (by omega) (by omega)]
      rw [if_pos hinside, hsource]
    · rw [if_neg hinside, cell?, if_neg, stamped]
      simp only [inBounds, decide_eq_true_eq]
      omega

/-! ## Cutting out -/

/-- The number nearest to `n` between zero and a limit. -/
def clamp (n : Int) (limit : Nat) : Nat := (min (max n 0) limit).toNat

/-- The cells from one row and column up to, but not including, others, the bounds clamped to the
grid. An empty region gives the single blank cell. -/
def clip (g : Grid) (startRow endRow startCol endCol : Int) : Grid :=
  let top := clamp startRow g.height
  let bottom := clamp endRow g.height
  let left := clamp startCol g.width
  let right := clamp endCol g.width
  if h : top < bottom ∧ left < right then
    build (right - left) (bottom - top) (by omega) (by omega) fun i j ↦
      g.cellAt (top + i) (left + j)
  else single

/-- The grid padded with blanks on both sides so that it stands in the middle of the given width; of
an odd number of columns to add, the right side gets one more. A grid that is as wide or wider
stays as it is. -/
def centerHorizontally (g : Grid) (targetWidth : Int) : Grid :=
  let pad := ((targetWidth - g.width) / 2).toNat
  build (max g.width targetWidth.toNat) g.height (by have := g.width_pos; omega) g.height_pos
    fun i j ↦ if pad ≤ j then g.cellAt i (j - pad) else Cell.blank

end Grid

end TextArt
