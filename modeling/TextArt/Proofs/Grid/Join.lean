import TextArt.Proofs.Grid.ReadBack
import TextArt.Proofs.Grid.Stamping
import TextArt.Proofs.Wire.Shape

/-!
# Joined grids cell by cell

The appends go through the text of the rows: lines are padded, joined, split again and padded once
more. For legible grids nothing of that shows. `Grid.beside` and `Grid.above` say cell by cell what
comes out, and the appends are equal to them (`rightAppend_eq`, `bottomAppend_eq`). Both are
associative, and both are what stamping the two grids on a blank canvas gives (`appends_eq_stamps`).
-/

namespace TextArt.Grid

variable {g other : Grid}

/-! ## Side by side and one above the other -/

/-- Two grids side by side with a blank column between them, the lower one filled up with blanks. -/
def beside (g other : Grid) : Grid :=
  build (g.width + 1 + other.width) (max g.height other.height) (by omega)
    (Nat.lt_of_lt_of_le g.height_pos (Nat.le_max_left _ _)) fun i j ↦
      if j < g.width then g.cellAt i j
      else if j = g.width then Cell.blank
      else other.cellAt i (j - (g.width + 1))

/-- Two grids one above the other, the narrow one filled up with blanks. -/
def above (g other : Grid) : Grid :=
  build (max g.width other.width) (g.height + other.height)
    (Nat.lt_of_lt_of_le g.width_pos (Nat.le_max_left _ _)) (Nat.add_pos_left g.height_pos _)
    fun i j ↦ if i < g.height then g.cellAt i j else other.cellAt (i - g.height) j

@[simp] theorem width_beside (g other : Grid) :
    (g.beside other).width = g.width + 1 + other.width := rfl

@[simp] theorem height_beside (g other : Grid) :
    (g.beside other).height = max g.height other.height := rfl

@[simp] theorem width_above (g other : Grid) :
    (g.above other).width = max g.width other.width := rfl

@[simp] theorem height_above (g other : Grid) :
    (g.above other).height = g.height + other.height := rfl

/-- The cells of two grids side by side, those around them included. -/
theorem cellAt_beside (g other : Grid) (i j : Nat) :
    (g.beside other).cellAt i j =
      if j < g.width then g.cellAt i j
      else if j = g.width then Cell.blank
      else other.cellAt i (j - (g.width + 1)) := by
  by_cases hi : i < max g.height other.height
  · by_cases hj : j < g.width + 1 + other.width
    · exact cellAt_build hi hj
    · rw [cellAt_of_width_le _ (by rw [width_beside]; omega), if_neg (by omega), if_neg (by omega),
        cellAt_of_width_le other (by omega)]
  · rw [cellAt_of_height_le _ (by rw [height_beside]; omega), cellAt_of_height_le g (by omega),
      cellAt_of_height_le other (by omega), ite_self, ite_self]

theorem cellAt_above (g other : Grid) (i j : Nat) :
    (g.above other).cellAt i j =
      if i < g.height then g.cellAt i j else other.cellAt (i - g.height) j := by
  by_cases hi : i < g.height + other.height
  · by_cases hj : j < max g.width other.width
    · exact cellAt_build hi hj
    · rw [cellAt_of_width_le _ (by rw [width_above]; omega), cellAt_of_width_le g (by omega),
        cellAt_of_width_le other (by omega), ite_self]
  · rw [cellAt_of_height_le _ (by rw [height_above]; omega), if_neg (by omega),
      cellAt_of_height_le other (by omega)]

/-- Of two legible grids, side by side, every cell is one of theirs or a blank. -/
theorem legible_beside (hg : g.Legible) (ho : other.Legible) : (g.beside other).Legible := by
  intro i j
  rw [cellAt_beside]
  split
  · exact hg i j
  · split
    · exact Cell.legible_blank
    · exact ho i _

theorem legible_above (hg : g.Legible) (ho : other.Legible) : (g.above other).Legible := by
  intro i j
  rw [cellAt_above]
  split
  · exact hg i j
  · exact ho _ j

theorem beside_assoc (a b c : Grid) : (a.beside b).beside c = a.beside (b.beside c) := by
  have hwidth : (a.beside b).width = a.width + 1 + b.width := rfl
  refine ext_cellAt (by simp only [width_beside]; omega) (Nat.max_assoc _ _ _) fun i j _ _ ↦ ?_
  rw [cellAt_beside (a.beside b), cellAt_beside a b, cellAt_beside a (b.beside c),
    cellAt_beside b c]
  by_cases hleft : j < (a.beside b).width
  · rw [if_pos hleft]
    by_cases ha : j < a.width
    · rw [if_pos ha, if_pos ha]
    · by_cases hgap : j = a.width
      · rw [if_neg ha, if_neg ha, if_pos hgap, if_pos hgap]
      · have hb : j - (a.width + 1) < b.width := by omega
        rw [if_neg ha, if_neg ha, if_neg hgap, if_neg hgap, if_pos hb]
  · have ha : ¬j < a.width ∧ ¬j = a.width := by omega
    have hb : ¬j - (a.width + 1) < b.width := by omega
    rw [if_neg hleft, if_neg ha.1, if_neg ha.2, if_neg hb]
    by_cases hgap : j = (a.beside b).width
    · have hb : j - (a.width + 1) = b.width := by omega
      rw [if_pos hgap, if_pos hb]
    · have hb : ¬j - (a.width + 1) = b.width := by omega
      rw [if_neg hgap, if_neg hb]
      exact congrArg (c.cellAt i) (by omega)

private theorem above_assoc (a b c : Grid) : (a.above b).above c = a.above (b.above c) := by
  refine ext_cellAt (Nat.max_assoc _ _ _) (Nat.add_assoc _ _ _) fun i j _ _ ↦ ?_
  simp only [cellAt_above, height_above]
  by_cases ha : i < a.height
  · rw [if_pos (by omega), if_pos ha, if_pos ha]
  · simp only [if_neg ha]
    by_cases hb : i - a.height < b.height
    · rw [if_pos (by omega), if_pos hb]
    · rw [if_neg (by omega), if_neg hb]
      exact congrArg (c.cellAt · j) (by omega)

/-! ## The text of joined rows -/

private theorem rowCells_of_height_le {i : Nat} (h : g.height ≤ i) :
    g.rowCells i = List.replicate g.width Cell.blank := by
  rw [rowCells, List.eq_replicate_iff, List.length_map, List.length_range]
  refine ⟨rfl, fun c hc ↦ ?_⟩
  obtain ⟨j, -, rfl⟩ := List.mem_map.1 hc
  exact cellAt_of_height_le g h

private theorem map_toList_paddedLines (hg : g.Legible) {height : Nat} (h : g.height ≤ height) :
    (g.paddedLines height).map Text.toList = (List.range height).map g.rowCells := by
  obtain ⟨more, rfl⟩ := Nat.exists_eq_add_of_le h
  have hbelow : (List.range more).map (g.rowCells ∘ (g.height + ·)) =
      List.replicate more (List.replicate g.width Cell.blank) := by
    rw [List.eq_replicate_iff, List.length_map, List.length_range]
    refine ⟨rfl, fun row hrow ↦ ?_⟩
    obtain ⟨i, -, rfl⟩ := List.mem_map.1 hrow
    exact rowCells_of_height_le (Nat.le_add_right _ _)
  rw [paddedLines, List.map_append, map_toList_lines hg, rowList, List.map_replicate, blankLine,
    Text.toList_ofList, Nat.add_sub_cancel_left, List.range_add, List.map_append, List.map_map,
    hbelow]

private theorem map_toList_besideLines (hg : g.Legible) (ho : other.Legible) :
    (g.besideLines other).map Text.toList =
      (List.range (max g.height other.height)).map fun i ↦
        g.rowCells i ++ Cell.blank :: other.rowCells i := by
  have hleft := map_toList_paddedLines hg (Nat.le_max_left g.height other.height)
  have hright := map_toList_paddedLines ho (Nat.le_max_right g.height other.height)
  have hjoin : ∀ left right : List Text,
      (List.zipWith (fun l r ↦ l ++ Text.singleton Cell.blank ++ r) left right).map
          Text.toList =
        List.zipWith (fun l r ↦ l ++ Cell.blank :: r) (left.map Text.toList)
          (right.map Text.toList) := by
    intro left right
    rw [List.map_zipWith, List.zipWith_map]
    simp
  rw [besideLines, hjoin, hleft, hright, List.zipWith_map, List.zipWith_self]

private theorem charOf_rowList_eq (g : Grid) (i j : Nat) : charOf g.rowList i j = g.cellAt i j := by
  by_cases hi : i < g.height
  · by_cases hj : j < g.width
    · exact charOf_rowList hi hj
    · rw [cellAt_of_width_le g (Nat.not_lt.1 hj)]
      simp [charOf, rowList, rowCells, hi, hj]
  · rw [cellAt_of_height_le g (Nat.not_lt.1 hi)]
    simp [charOf, rowList, hi]

private theorem maxLength_append (rows more : List (List CodePoint)) :
    maxLength (rows ++ more) = max (maxLength rows) (maxLength more) := by
  apply Nat.le_antisymm
  · refine maxLength_le fun r hr ↦ ?_
    rcases List.mem_append.1 hr with hr | hr
    · exact Nat.le_trans (length_le_maxLength hr) (Nat.le_max_left _ _)
    · exact Nat.le_trans (length_le_maxLength hr) (Nat.le_max_right _ _)
  · refine Nat.max_le.2 ⟨maxLength_le fun r hr ↦ ?_, maxLength_le fun r hr ↦ ?_⟩
    · exact length_le_maxLength (List.mem_append_left _ hr)
    · exact length_le_maxLength (List.mem_append_right _ hr)

private theorem charOf_append (rows more : List (List CodePoint)) (i j : Nat) :
    charOf (rows ++ more) i j =
      if i < rows.length then charOf rows i j else charOf more (i - rows.length) j := by
  unfold charOf
  split
  · next hi => rw [List.getElem?_append_left hi]
  · next hi => rw [List.getElem?_append_right (Nat.not_lt.1 hi)]

private theorem rowCells_beside (g other : Grid) (i : Nat) :
    (g.beside other).rowCells i = g.rowCells i ++ Cell.blank :: other.rowCells i := by
  have hleft : (List.range g.width).map ((g.beside other).cellAt i) = g.rowCells i := by
    refine List.map_congr_left fun j hj ↦ ?_
    rw [cellAt_beside, if_pos (List.mem_range.1 hj)]
  have hright : (List.range other.width).map
      ((g.beside other).cellAt i ∘ (g.width + 1 + ·)) = other.rowCells i := by
    refine List.map_congr_left fun j _ ↦ ?_
    rw [Function.comp_apply, cellAt_beside, if_neg (by omega), if_neg (by omega),
      Nat.add_sub_cancel_left]
  have hgap : (g.beside other).cellAt i g.width = Cell.blank := by
    rw [cellAt_beside, if_neg (Nat.lt_irrefl _), if_pos rfl]
  rw [rowCells, width_beside, List.range_add, List.map_append, List.map_map, hright,
    List.range_succ, List.map_append, hleft, List.map_singleton, hgap, List.append_assoc,
    List.singleton_append]

/-! ## The appends of legible grids -/

/-- **Setting side by side.** The joined lines are those of the two grids side by side. -/
theorem rightAppend_eq (hg : g.Legible) (ho : other.Legible) :
    g.rightAppend other = .ok (g.beside other) := by
  have hlines : g.besideLines other = (g.beside other).lines := by
    refine List.map_injective_iff.2 (fun _ _ h ↦ Text.toList_injective h) ?_
    rw [map_toList_besideLines hg ho, map_toList_lines (legible_beside hg ho), rowList]
    exact List.map_congr_left fun i _ ↦ (rowCells_beside g other i).symm
  rw [rightAppend, hlines]
  exact ofText_toText (legible_beside hg ho)

theorem break_not_mem_lines (hg : g.Legible) : ∀ l ∈ g.lines, CodePoint.char '\n' ∉ l.toList :=
  fun _ hl hbreak ↦ (legible_of_mem_lines hg hl hbreak).2 rfl

/-- What is read from lines is as wide as the longest of them, has a row for each, and shows them
with blanks around. -/
theorem rows_of_ofLines {lines : List Text} (hbreak : ∀ l ∈ lines, CodePoint.char '\n' ∉ l.toList)
    (h : ofLines lines = .ok g) :
    g.width = maxLength (lines.map Text.toList) ∧ g.height = lines.length ∧
      ∀ i j, charOf (lines.map Text.toList) i j = g.cellAt i j := by
  have hne : lines ≠ [] := by
    rintro rfl
    cases h
  obtain ⟨hwidth, hheight, hcell⟩ := cellAt_of_ofRows? (ofText_eq_ok.1 h)
  rw [rowsOf_intercalate hne hbreak] at hwidth hheight hcell
  rw [List.length_map] at hheight
  refine ⟨hwidth, hheight, fun i j ↦ ?_⟩
  by_cases hi : i < g.height
  · by_cases hj : j < g.width
    · exact (hcell i j hi hj).symm
    · have hrow : i < (lines.map Text.toList).length := by rwa [List.length_map, ← hheight]
      have hshort := length_le_maxLength (List.getElem_mem hrow)
      rw [cellAt_of_width_le g (Nat.not_lt.1 hj), charOf, List.getElem?_eq_getElem hrow,
        Option.bind_some, List.getElem?_eq_none (by omega), Option.getD_none]
  · rw [cellAt_of_height_le g (Nat.not_lt.1 hi), charOf,
      List.getElem?_eq_none (by rw [List.length_map]; omega), Option.bind_none, Option.getD_none]

/-- **Reading more lines.** The lines of a legible grid below others give that grid below the one
that the others give. Short lines are filled up as they are read. -/
theorem ofLines_append {lines : List Text} (hbreak : ∀ l ∈ lines, CodePoint.char '\n' ∉ l.toList)
    (h : ofLines lines = .ok g) (ho : other.Legible) :
    ofLines (lines ++ other.lines) = .ok (g.above other) := by
  obtain ⟨hgwidth, hgheight, hgcell⟩ := rows_of_ofLines hbreak h
  have hall := List.forall_mem_append.2 ⟨hbreak, break_not_mem_lines ho⟩
  have hink : ∃ l ∈ lines ++ other.lines, l.toList ≠ [] := by
    obtain ⟨l, hl, hne⟩ := exists_line_ne_nil ho
    exact ⟨l, List.mem_append_right _ hl, hne⟩
  obtain ⟨joined, hjoined, hwidth, hheight, hcell⟩ := ofLines_eq_ok hall hink
  rw [List.map_append, map_toList_lines ho] at hwidth hcell
  rw [maxLength_append, maxLength_rowList, ← hgwidth] at hwidth
  rw [List.length_append, length_lines, ← hgheight] at hheight
  have heq : joined = g.above other := by
    refine ext_cellAt hwidth hheight fun i j hi hj ↦ ?_
    rw [hcell i j hi hj, charOf_append, hgcell, charOf_rowList_eq, List.length_map, ← hgheight,
      cellAt_above]
  rw [hjoined, heq]

/-- **Setting below.** The lines of one grid come after those of the other. -/
theorem bottomAppend_eq (hg : g.Legible) (ho : other.Legible) :
    g.bottomAppend other = .ok (g.above other) :=
  ofLines_append (break_not_mem_lines hg) (ofText_toText hg) ho

/-- Many legible grids can be set below each other. -/
theorem foldlM_bottomAppend_eq {rest : List Grid} (hg : g.Legible)
    (hrest : ∀ other ∈ rest, other.Legible) :
    rest.foldlM bottomAppend g = .ok (rest.foldl above g) := by
  induction rest generalizing g with
  | nil => rfl
  | cons other rest ih =>
    have ho := hrest other List.mem_cons_self
    rw [List.foldlM_cons, bottomAppend_eq hg ho]
    exact ih (legible_above hg ho) fun o hmem ↦ hrest o (List.mem_cons_of_mem _ hmem)

/-- Reading the lines of many grids sets all of them below each other. -/
theorem ofLines_flatMap_lines {lines : List Text} {rest : List Grid}
    (hbreak : ∀ l ∈ lines, CodePoint.char '\n' ∉ l.toList) (h : ofLines lines = .ok g)
    (hrest : ∀ other ∈ rest, other.Legible) :
    ofLines (lines ++ rest.flatMap Grid.lines) = .ok (rest.foldl above g) := by
  induction rest generalizing lines g with
  | nil => rw [List.flatMap_nil, List.append_nil, h, List.foldl_nil]
  | cons other rest ih =>
    have ho := hrest other List.mem_cons_self
    rw [List.flatMap_cons, ← List.append_assoc, List.foldl_cons]
    exact ih (List.forall_mem_append.2 ⟨hbreak, break_not_mem_lines ho⟩)
      (ofLines_append hbreak h ho) fun o hmem ↦ hrest o (List.mem_cons_of_mem _ hmem)

private theorem topAppend_eq (hg : g.Legible) (ho : other.Legible) :
    g.topAppend other = .ok (other.above g) :=
  bottomAppend_eq ho hg

/-! ## Stamps on a blank canvas -/

/-- A blank canvas of the given size on which one grid is stamped into the corner, and another one
at the given place. -/
def stampBoth (width height : Nat) (g other : Grid) (row col : Nat) : Outcome Grid := do
  let canvas ← requestNew (.int width) (.int height)
  let canvas ← canvas.requestOverlay g (.int 0) (.int 0) .null (.bool true)
  canvas.requestOverlay other (.int row) (.int col) .null (.bool true)

/-- The cells of two grids on a canvas where the second one stands below or to the right of the
first. -/
theorem cellAt_overlay_overlay {canvas : Grid} (hblank : ∀ i j, canvas.cellAt i j = Cell.blank)
    (g other : Grid) {row col : Nat} (hapart : g.height ≤ row ∨ g.width ≤ col) {i j : Nat}
    (hi : i < canvas.height) (hj : j < canvas.width) :
    ((canvas.overlay g 0 0 none true).overlay other row col none true).cellAt i j =
      if row ≤ i ∧ col ≤ j then other.cellAt (i - row) (j - col) else g.cellAt i j := by
  have hfirst : (canvas.overlay g 0 0 none true).cellAt i j = g.cellAt i j :=
    cellAt_overlay_blank canvas g 0 0 hi hj fun _ _ ↦ hblank i j
  -- where the second grid comes to lie, or would if it were larger, the first one has no cells
  have hbelow : row ≤ i → col ≤ j → g.cellAt i j = Cell.blank := by
    intro hrow hcol
    rcases hapart with h | h
    · exact cellAt_of_height_le g (Nat.le_trans h hrow)
    · exact cellAt_of_width_le g (Nat.le_trans h hcol)
  rw [cellAt_overlay_blank _ other row col (by rwa [height_overlay]) (by rwa [width_overlay])
    (fun hrow hcol ↦ hfirst.trans (hbelow hrow hcol)), hfirst]

theorem stampBoth_eq (result : Grid) {row col : Nat} (hapart : g.height ≤ row ∨ g.width ≤ col)
    (hcell : ∀ i j, result.cellAt i j =
      if row ≤ i ∧ col ≤ j then other.cellAt (i - row) (j - col) else g.cellAt i j) :
    stampBoth result.width result.height g other row col = .ok result := by
  have hcanvas := Shape.requestNew_positive ⟨result.width, result.width_pos⟩
    ⟨result.height, result.height_pos⟩
  have hstamp (t s : Grid) (row col : Int) :
      t.requestOverlay s (.int row) (.int col) .null (.bool true) =
        .ok (t.overlay s row col none true) :=
    requestOverlay_whole t s row col .null (.bool true)
  rw [stampBoth, hcanvas, ok_bind, hstamp, ok_bind, hstamp]
  refine congrArg Except.ok (ext_cellAt (by simp [blank]) (by simp [blank]) fun i j hi hj ↦ ?_)
  rw [height_overlay, height_overlay] at hi
  rw [width_overlay, width_overlay] at hj
  rw [cellAt_overlay_overlay cellAt_blank g other hapart hi hj, hcell]

theorem stampBoth_beside (g other : Grid) :
    stampBoth (g.width + 1 + other.width) (max g.height other.height) g other 0 (g.width + 1) =
      .ok (g.beside other) := by
  refine stampBoth_eq (g.beside other) (.inr (Nat.le_succ _)) fun i j ↦ ?_
  rw [cellAt_beside]
  by_cases hright : g.width + 1 ≤ j
  · rw [if_neg (by omega), if_neg (by omega), if_pos ⟨Nat.zero_le i, hright⟩, Nat.sub_zero]
  · have hcorner : ¬(0 ≤ i ∧ g.width + 1 ≤ j) := fun h ↦ hright h.2
    rw [if_neg hcorner]
    by_cases hleft : j < g.width
    · rw [if_pos hleft]
    · rw [if_neg hleft, if_pos (by omega), cellAt_of_width_le g (Nat.not_lt.1 hleft)]

private theorem stampBoth_above (g other : Grid) :
    stampBoth (max g.width other.width) (g.height + other.height) g other g.height 0 =
      .ok (g.above other) := by
  refine stampBoth_eq (g.above other) (.inl (Nat.le_refl _)) fun i j ↦ ?_
  rw [cellAt_above]
  by_cases hbelow : i < g.height
  · rw [if_pos hbelow, if_neg (by omega)]
  · rw [if_neg hbelow, if_pos ⟨Nat.not_lt.1 hbelow, Nat.zero_le j⟩, Nat.sub_zero]

/-- **Appends.** Of legible grids, of whatever sizes, an append fails for none. It gives what the
two grids make up when they are stamped on a blank canvas, and it does not matter in which order
three of them are joined. -/
theorem appends_eq_stamps {a b c : Grid} (ha : a.Legible) (hb : b.Legible) (hc : c.Legible) :
    (∃ joined, a.rightAppend b = .ok joined ∧
      stampBoth (a.width + 1 + b.width) (max a.height b.height) a b 0 (a.width + 1) =
        .ok joined) ∧
    (∃ joined, a.bottomAppend b = .ok joined ∧
      stampBoth (max a.width b.width) (a.height + b.height) a b a.height 0 = .ok joined) ∧
    (∃ joined, a.topAppend b = .ok joined ∧
      stampBoth (max a.width b.width) (a.height + b.height) b a b.height 0 = .ok joined) ∧
    (∃ joined, a.rightAppend b >>= (·.rightAppend c) = .ok joined ∧
      b.rightAppend c >>= a.rightAppend = .ok joined) ∧
    ∃ joined, a.bottomAppend b >>= (·.bottomAppend c) = .ok joined ∧
      b.bottomAppend c >>= a.bottomAppend = .ok joined := by
  refine ⟨⟨_, rightAppend_eq ha hb, stampBoth_beside a b⟩,
    ⟨_, bottomAppend_eq ha hb, stampBoth_above a b⟩, ⟨_, topAppend_eq ha hb, ?_⟩,
    ⟨(a.beside b).beside c, ?_, ?_⟩, (a.above b).above c, ?_, ?_⟩
  · rw [Nat.max_comm, Nat.add_comm]
    exact stampBoth_above b a
  · rw [rightAppend_eq ha hb, ok_bind, rightAppend_eq (legible_beside ha hb) hc]
  · rw [rightAppend_eq hb hc, ok_bind, rightAppend_eq ha (legible_beside hb hc), beside_assoc]
  · rw [bottomAppend_eq ha hb, ok_bind, bottomAppend_eq (legible_above ha hb) hc]
  · rw [bottomAppend_eq hb hc, ok_bind, bottomAppend_eq ha (legible_above hb hc), above_assoc]

/-- A letter with a blank after it. -/
def rowOfTwo : Grid := build 2 1 Nat.two_pos Nat.one_pos fun _ j ↦ if j = 0 then 'a' else ' '

/-- A blank with a letter below it. -/
def columnOfTwo : Grid := build 1 2 Nat.one_pos Nat.two_pos fun i _ ↦ if i = 0 then ' ' else 'b'

/-- The blank of the row, the blank between the two and the blank of the column are all there after
the letter. -/
theorem rowOfTwo_appends :
    (rowOfTwo.Legible ∧ columnOfTwo.Legible) ∧
    (∃ joined, rowOfTwo.rightAppend columnOfTwo = .ok joined ∧
      joined.rowCells 0 = ['a', ' ', ' ', ' '] ∧ joined.rowCells 1 = [' ', ' ', ' ', 'b']) ∧
    ∃ joined, rowOfTwo.bottomAppend columnOfTwo >>= (·.bottomAppend rowOfTwo) = .ok joined ∧
      columnOfTwo.bottomAppend rowOfTwo >>= rowOfTwo.bottomAppend = .ok joined := by
  have hrow : rowOfTwo.Legible := legible_build fun _ j _ _ ↦ by
    split
    · exact ⟨by decide, by decide⟩
    · exact Cell.legible_blank
  have hcolumn : columnOfTwo.Legible := legible_build fun i _ _ _ ↦ by
    split
    · exact Cell.legible_blank
    · exact ⟨by decide, by decide⟩
  obtain ⟨⟨joined, hjoined, hstamps⟩, -, -, -, hassoc⟩ := appends_eq_stamps hrow hcolumn hrow
  obtain rfl := Except.ok.inj ((stampBoth_beside rowOfTwo columnOfTwo).symm.trans hstamps)
  exact ⟨⟨hrow, hcolumn⟩, ⟨_, hjoined, by decide +kernel, by decide +kernel⟩, hassoc⟩

end TextArt.Grid
