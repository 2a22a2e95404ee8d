import TextArt.Grid.Basic

/-!
# Slices and masks

A slice of a list is what lies between two places. Places count from zero, negative ones from the
end, and a place beyond an end means that end. A window of a grid is a slice of its rows and the
same slice of each of these.

A mask chooses items of a list. What it chooses of a window is one list, row after row, and a list
is written to the chosen places of a window in the same order. Written back through the mask that it
was read with, every item comes to its own place (`storeRows_chosenRows`).
-/

namespace TextArt

variable {α β ι : Type}

namespace Slice

/-- The place in a list of the given length that a number means. -/
def place (length : Nat) (i : Int) : Nat :=
  if i < 0 then (i + length).toNat else min i.toNat length

/-- The items from one place up to another. -/
def read (l : List α) (start stop : Int) : List α :=
  (l.take (place l.length stop)).drop (place l.length start)

/-- The list with other items from one place up to another. -/
def write (l : List α) (start stop : Int) (items : List α) : List α :=
  l.take (place l.length start) ++ items ++
    l.drop (max (place l.length start) (place l.length stop))

theorem place_natCast {length i : Nat} (h : i ≤ length) : place length (i : Int) = i := by
  unfold place
  rw [if_neg (by omega), Int.toNat_natCast, Nat.min_eq_left h]

variable {n start stop : Nat}

/-- A slice that does not reach beyond the end has nothing to do with the end. -/
theorem read_range (h : start ≤ stop) (hstop : stop ≤ n) (f : Nat → α) :
    read ((List.range n).map f) start stop =
      (List.range (stop - start)).map fun i ↦ f (start + i) := by
  have hlength : ((List.range n).map f).length = n := by simp
  rw [read, hlength, place_natCast hstop, place_natCast (Nat.le_trans h hstop)]
  refine List.ext_getElem ?_ fun i hi hi' ↦ ?_
  · simp only [List.length_drop, List.length_take, List.length_map, List.length_range]
    omega
  · simp only [List.getElem_drop, List.getElem_take, List.getElem_map, List.getElem_range]

theorem write_range (h : start ≤ stop) (hstop : stop ≤ n) (f items : Nat → α) :
    write ((List.range n).map f) start stop ((List.range (stop - start)).map items) =
      (List.range n).map fun i ↦ if start ≤ i ∧ i < stop then items (i - start) else f i := by
  have hlength : ((List.range n).map f).length = n := by simp
  rw [write, hlength, place_natCast hstop, place_natCast (Nat.le_trans h hstop), Nat.max_eq_right h]
  refine List.ext_getElem ?_ fun i hi hi' ↦ ?_
  · simp only [List.length_append, List.length_drop, List.length_take, List.length_map,
      List.length_range]
    omega
  · simp only [List.length_map, List.length_range] at hi'
    simp only [List.getElem_append, List.length_append, List.length_take, List.length_map,
      List.length_range, List.getElem_map, List.getElem_range, List.getElem_drop,
      List.getElem_take, Nat.min_eq_left (Nat.le_trans h hstop)]
    -- the place is before the slice, in it, or after it
    rcases Nat.lt_or_ge i start with hbefore | hbehind
    · rw [dif_pos (by omega), dif_pos hbefore, if_neg (by omega)]
    · rcases Nat.lt_or_ge i stop with hinside | hafter
      · rw [dif_pos (by omega), dif_neg (by omega), if_pos ⟨hbehind, hinside⟩]
      · rw [dif_neg (by omega), if_neg (by omega)]
        exact congrArg f (by omega)

end Slice

namespace Mask

/-- The items that a mask chooses. -/
def chosen : List Bool → List α → List α
  | true :: mask, a :: l => a :: chosen mask l
  | false :: mask, _ :: l => chosen mask l
  | _, _ => []

/-- Puts values in the chosen places of a list, in order, and returns what is left of them. -/
def store : List Bool → List α → List α → List α × List α
  | true :: mask, _ :: l, v :: values => (store mask l values).map (v :: ·) id
  | false :: mask, a :: l, values => (store mask l values).map (a :: ·) id
  | _, l, values => (l, values)

/-- The items that the masks of some rows choose, row after row. -/
def chosenRows (masks : List (List Bool)) (rows : List (List α)) : List α :=
  (List.zipWith chosen masks rows).flatten

/-- Puts values in the chosen places of some rows, row after row. -/
def storeRows : List (List Bool) → List (List α) → List α → List (List α)
  | mask :: masks, row :: rows, values =>
    (store mask row values).1 :: storeRows masks rows (store mask row values).2
  | _, rows, _ => rows

theorem chosen_map (f : α → β) (mask : List Bool) (l : List α) :
    chosen mask (l.map f) = (chosen mask l).map f := by
  induction mask generalizing l with
  | nil => cases l <;> rfl
  | cons b mask ih =>
    cases l with
    | nil => cases b <;> rfl
    | cons a l => cases b <;> simp [chosen, ih]

theorem chosenRows_map (f : α → β) (masks : List (List Bool)) (rows : List (List α)) :
    chosenRows masks (rows.map (List.map f)) = (chosenRows masks rows).map f := by
  unfold chosenRows
  induction masks generalizing rows with
  | nil => rfl
  | cons mask masks ih =>
    cases rows with
    | nil => rfl
    | cons row rows => simp [chosen_map, ih]

variable (choose : α → Bool)

/-- Values that are read through a mask go back to the places they come from. -/
theorem store_chosen {old new : List α} (h : new.length = old.length) (rest : List α)
    (f : α → α) :
    store (new.map choose) old (chosen (new.map choose) (new.map f) ++ rest) =
      (List.zipWith (fun a b ↦ if choose b then f b else a) old new, rest) := by
  -- both lists are gone through together; a value is used up just where one was taken
  induction new generalizing old with
  | nil =>
    obtain rfl := List.eq_nil_of_length_eq_zero h.symm
    rfl
  | cons b new ih =>
    cases old with
    | nil => cases h
    | cons a old =>
      have ih := ih (Nat.succ.inj h)
      cases hb : choose b <;> simp [chosen, store, hb, ih]

theorem storeRows_chosenRows {places : List ι} {old new : ι → List α}
    (h : ∀ i ∈ places, (new i).length = (old i).length) (f : α → α) :
    storeRows ((places.map new).map (List.map choose)) (places.map old)
        (chosenRows ((places.map new).map (List.map choose)) ((places.map new).map (List.map f))) =
      places.map fun i ↦
        List.zipWith (fun a b ↦ if choose b then f b else a) (old i) (new i) := by
  induction places with
  | nil => rfl
  | cons i places ih =>
    have hrest := ih fun j hj ↦ h j (List.mem_cons_of_mem _ hj)
    unfold chosenRows at hrest ⊢
    simp only [List.map_cons, List.zipWith_cons_cons, List.flatten_cons, storeRows,
      store_chosen choose (h i List.mem_cons_self), hrest]

end Mask

namespace Grid

/-- The cells between some rows and columns. -/
def window (g : Grid) (top bottom left right : Int) : List (List Cell) :=
  (Slice.read g.rowList top bottom).map fun row ↦ Slice.read row left right

/-- The grid with other cells between some rows and columns. -/
def setWindow (g : Grid) (top bottom left right : Int) (lines : List (List Cell)) : Grid :=
  let rows := Slice.write g.rowList top bottom
    (List.zipWith (fun row line ↦ Slice.write row left right line)
      (Slice.read g.rowList top bottom) lines)
  let table : Array (Array Cell) := (rows.map List.toArray).toArray
  build g.width g.height g.width_pos g.height_pos fun row col ↦
    ((table[row]?).bind (·[col]?)).getD Cell.blank

@[simp] theorem width_setWindow (g : Grid) (top bottom left right : Int)
    (lines : List (List Cell)) : (g.setWindow top bottom left right lines).width = g.width := rfl

@[simp] theorem height_setWindow (g : Grid) (top bottom left right : Int)
    (lines : List (List Cell)) : (g.setWindow top bottom left right lines).height = g.height := rfl

variable {g : Grid} {top bottom left right : Nat}

/-- A window inside the grid has its own number of rows and columns. -/
theorem window_eq (htop : top ≤ bottom) (hbottom : bottom ≤ g.height) (hleft : left ≤ right)
    (hright : right ≤ g.width) :
    g.window top bottom left right = (List.range (bottom - top)).map fun i ↦
      (List.range (right - left)).map fun j ↦ g.cellAt (top + i) (left + j) := by
  rw [window, rowList, Slice.read_range htop hbottom, List.map_map]
  refine List.map_congr_left fun i _ ↦ ?_
  exact Slice.read_range hleft hright _

theorem cellAt_setWindow (htop : top ≤ bottom) (hbottom : bottom ≤ g.height)
    (hleft : left ≤ right) (hright : right ≤ g.width) (f : Nat → Nat → Cell) {row col : Nat}
    (hr : row < g.height) (hc : col < g.width) :
    (g.setWindow top bottom left right ((List.range (bottom - top)).map fun i ↦
        (List.range (right - left)).map (f i))).cellAt row col =
      if (top ≤ row ∧ row < bottom) ∧ left ≤ col ∧ col < right then f (row - top) (col - left)
      else g.cellAt row col := by
  have hlines : List.zipWith (fun row line ↦ Slice.write row (left : Int) right line)
      (Slice.read g.rowList top bottom) ((List.range (bottom - top)).map fun i ↦
        (List.range (right - left)).map (f i)) =
      (List.range (bottom - top)).map fun i ↦ (List.range g.width).map fun j ↦
        if left ≤ j ∧ j < right then f i (j - left) else g.cellAt (top + i) j := by
    rw [rowList, Slice.read_range htop hbottom, List.zipWith_map, List.zipWith_self]
    exact List.map_congr_left fun i _ ↦ Slice.write_range hleft hright _ _
  rw [setWindow, hlines, rowList, Slice.write_range htop hbottom, cellAt_build hr hc]
  by_cases hrow : top ≤ row ∧ row < bottom
  · have hback : top + (row - top) = row := by omega
    simp [hr, hc, hrow, hback]
  · simp [hr, hc, hrow, rowCells]

end Grid

end TextArt
