import TextArt.Grid.Join
import TextArt.Proofs.Grid.Legible

/-!
# Grids as text

Grids are joined through the text of their rows. Lines without line feeds come back from their text
as they were, so a grid that is read from such lines is described by the lines themselves
(`ofLines_eq_ok`), and joining legible grids never fails.
-/

namespace TextArt.Grid

/-! ## Reading lines -/

theorem length_le_maxLength {rows : List (List CodePoint)} {r : List CodePoint} (hr : r ∈ rows) :
    r.length ≤ maxLength rows := by
  -- the maximum so far only grows
  have hacc : ∀ (rows : List (List CodePoint)) (n : Nat),
      n ≤ rows.foldl (fun n r ↦ max n r.length) n ∧
        ∀ r ∈ rows, r.length ≤ rows.foldl (fun n r ↦ max n r.length) n := by
    intro rows
    induction rows with
    | nil => exact fun n ↦ ⟨Nat.le_refl n, fun _ h ↦ absurd h List.not_mem_nil⟩
    | cons s rest ih =>
      intro n
      obtain ⟨hle, hmem⟩ := ih (max n s.length)
      refine ⟨Nat.le_trans (Nat.le_max_left _ _) hle, fun r hr ↦ ?_⟩
      rcases List.mem_cons.1 hr with rfl | hr
      · exact Nat.le_trans (Nat.le_max_right _ _) hle
      · exact hmem r hr
  exact (hacc rows 0).2 r hr

theorem maxLength_le {rows : List (List CodePoint)} {n : Nat} (h : ∀ r ∈ rows, r.length ≤ n) :
    maxLength rows ≤ n := by
  have hacc : ∀ m, m ≤ n → rows.foldl (fun n r ↦ max n r.length) m ≤ n := by
    induction rows with
    | nil => exact fun m hm ↦ hm
    | cons r rest ih =>
      intro m hm
      exact ih (fun r' hr' ↦ h r' (List.mem_cons_of_mem _ hr')) _
        (Nat.max_le.2 ⟨hm, h r List.mem_cons_self⟩)
  exact hacc 0 (Nat.zero_le n)

/-- The character of some rows at a place, a blank where there is none. -/
def charOf (rows : List (List CodePoint)) (row col : Nat) : Cell :=
  ((rows[row]?).bind (·[col]?)).getD Cell.blank

theorem cellAt_of_ofRows? {rows : List (List CodePoint)} {g : Grid} (h : ofRows? rows = some g) :
    g.width = maxLength rows ∧ g.height = rows.length ∧
      ∀ row col, row < g.height → col < g.width → g.cellAt row col = charOf rows row col := by
  unfold ofRows? at h
  dsimp only at h
  split at h
  · obtain rfl := Option.some.inj h
    refine ⟨rfl, by simp, fun row col hr hc ↦ ?_⟩
    rw [height_build] at hr
    rw [width_build] at hc
    rw [cellAt_build hr hc, charOf]
    cases hrow : rows[row]? with
    | none => simp [hrow]
    | some r => simp [hrow]
  · cases h

theorem ofRows?_eq_some {rows : List (List CodePoint)} (h : ∃ r ∈ rows, r ≠ []) :
    ∃ g, ofRows? rows = some g ∧ g.width = maxLength rows ∧ g.height = rows.length ∧
      ∀ row col, row < g.height → col < g.width → g.cellAt row col = charOf rows row col := by
  obtain ⟨r, hr, hne⟩ := h
  have hwidth : 0 < maxLength rows :=
    Nat.lt_of_lt_of_le (List.length_pos_iff.2 hne) (length_le_maxLength hr)
  have hheight : 0 < (rows.map List.toArray).toArray.size := by
    simpa using List.length_pos_of_mem hr
  exact ⟨_, dif_pos ⟨hwidth, hheight⟩, cellAt_of_ofRows? (dif_pos ⟨hwidth, hheight⟩)⟩

/-- Lines without line feeds come back from their text. -/
theorem rowsOf_intercalate {lines : List Text} (hne : lines ≠ [])
    (hbreak : ∀ l ∈ lines, CodePoint.char '\n' ∉ l.toList) :
    rowsOf (Text.intercalate "\n" lines).toList = lines.map Text.toList := by
  rw [rowsOf, Text.toList_intercalate]
  refine List.splitOn_intercalate (CodePoint.char '\n') ?_ (mt List.map_eq_nil_iff.1 hne)
  intro l hl
  obtain ⟨line, hline, rfl⟩ := List.mem_map.1 hl
  exact hbreak line hline

/-- **Reading lines.** Lines without line feeds, not all of them empty, make a grid that has one row
for each of them. -/
theorem ofLines_eq_ok {lines : List Text} (hbreak : ∀ l ∈ lines, CodePoint.char '\n' ∉ l.toList)
    (hink : ∃ l ∈ lines, l.toList ≠ []) :
    ∃ g, ofLines lines = .ok g ∧ g.width = maxLength (lines.map Text.toList) ∧
      g.height = lines.length ∧ ∀ row col, row < g.height → col < g.width →
        g.cellAt row col = charOf (lines.map Text.toList) row col := by
  obtain ⟨l, hl, hne⟩ := hink
  obtain ⟨g, hg, hw, hh, hcell⟩ :=
    ofRows?_eq_some ⟨l.toList, List.mem_map_of_mem hl, hne⟩
  refine ⟨g, ?_, hw, by rw [hh, List.length_map], hcell⟩
  rw [ofLines, ofText, ofText?, rowsOf_intercalate (List.ne_nil_of_mem hl) hbreak, hg]

/-- Lines of legible characters make a legible grid. -/
theorem ofLines_legible {lines : List Text}
    (hlegible : ∀ l ∈ lines, ∀ c ∈ l.toList, Cell.Legible c)
    (hink : ∃ l ∈ lines, l.toList ≠ []) : ∃ g, ofLines lines = .ok g ∧ g.Legible := by
  obtain ⟨g, hg, -, -, hcell⟩ :=
    ofLines_eq_ok (fun l hl hbreak ↦ (hlegible l hl _ hbreak).2 rfl) hink
  refine ⟨g, hg, legible_of_inside fun row col hr hc ↦ ?_⟩
  rw [hcell row col hr hc, charOf, List.getElem?_map]
  cases hline : lines[row]? with
  | none => exact Cell.legible_blank
  | some l =>
    rw [Option.map_some, Option.bind_some]
    cases hc : l.toList[col]? with
    | none => exact Cell.legible_blank
    | some c => exact hlegible l (List.mem_of_getElem? hline) c (List.mem_of_getElem? hc)

/-! ## The lines of a legible grid -/

variable {g other : Grid}

theorem toList_rowText (hg : g.Legible) (row : Nat) : (g.rowText row).toList = g.rowCells row := by
  rw [rowText, Text.toList_ofList, textOf, List.filter_eq_self]
  intro c hc
  obtain ⟨col, -, rfl⟩ := List.mem_map.1 hc
  simpa using (hg row col).1

theorem legible_of_mem_lines (hg : g.Legible) {l : Text} (hl : l ∈ g.lines) {c : CodePoint}
    (hc : c ∈ l.toList) : Cell.Legible c := by
  obtain ⟨row, -, rfl⟩ := List.mem_map.1 hl
  rw [toList_rowText hg] at hc
  obtain ⟨col, -, rfl⟩ := List.mem_map.1 hc
  exact hg row col

theorem exists_line_ne_nil (hg : g.Legible) : ∃ l ∈ g.lines, l.toList ≠ [] := by
  refine ⟨g.rowText 0, List.mem_map_of_mem (List.mem_range.2 g.height_pos), ?_⟩
  rw [toList_rowText hg, ← List.length_pos_iff, rowCells, List.length_map, List.length_range]
  exact g.width_pos

/-! ## Joining -/

theorem bottomAppend_legible (hg : g.Legible) (ho : other.Legible) :
    ∃ joined, g.bottomAppend other = .ok joined ∧ joined.Legible := by
  refine ofLines_legible ?_ ?_
  · intro l hl c hc
    rcases List.mem_append.1 hl with hl | hl
    · exact legible_of_mem_lines hg hl hc
    · exact legible_of_mem_lines ho hl hc
  · obtain ⟨l, hl, hne⟩ := exists_line_ne_nil hg
    exact ⟨l, List.mem_append_left _ hl, hne⟩

theorem topAppend_legible (hg : g.Legible) (ho : other.Legible) :
    ∃ joined, g.topAppend other = .ok joined ∧ joined.Legible :=
  bottomAppend_legible ho hg

private theorem legible_of_mem_paddedLines (hg : g.Legible) {height : Nat} {l : Text}
    (hl : l ∈ g.paddedLines height) {c : CodePoint} (hc : c ∈ l.toList) : Cell.Legible c := by
  rcases List.mem_append.1 hl with hl | hl
  · exact legible_of_mem_lines hg hl hc
  · obtain rfl := List.eq_of_mem_replicate hl
    rw [blankLine, Text.toList_ofList] at hc
    obtain rfl := List.eq_of_mem_replicate hc
    exact Cell.legible_blank

private theorem length_paddedLines (g : Grid) (height : Nat) :
    (g.paddedLines height).length = g.height + (height - g.height) := by
  rw [paddedLines, List.length_append, List.length_replicate, lines, List.length_map,
    List.length_range]

theorem rightAppend_legible (hg : g.Legible) (ho : other.Legible) :
    ∃ joined, g.rightAppend other = .ok joined ∧ joined.Legible := by
  refine ofLines_legible ?_ ?_
  · intro l hl c hc
    unfold besideLines at hl
    rw [List.mem_iff_getElem] at hl
    obtain ⟨i, hi, rfl⟩ := hl
    rw [List.getElem_zipWith, Text.toList_append, Text.toList_append, List.mem_append,
      List.mem_append] at hc
    rcases hc with (hc | hc) | hc
    · exact legible_of_mem_paddedLines hg (List.getElem_mem _) hc
    · rw [Text.toList_singleton, List.mem_singleton] at hc
      rw [hc]
      exact Cell.legible_blank
    · exact legible_of_mem_paddedLines ho (List.getElem_mem _) hc
  · have hlength : 0 < (g.besideLines other).length := by
      have := g.height_pos
      rw [besideLines, List.length_zipWith, length_paddedLines, length_paddedLines]
      omega
    refine ⟨_, List.getElem_mem hlength, ?_⟩
    simp only [besideLines, List.getElem_zipWith, Text.toList_append, Text.toList_singleton]
    simp

/-- Legible grids can be set side by side, however many they are. -/
theorem foldlM_rightAppend_legible {rest : List Grid} (hg : g.Legible)
    (hrest : ∀ other ∈ rest, other.Legible) :
    ∃ joined, rest.foldlM rightAppend g = .ok joined ∧ joined.Legible := by
  induction rest generalizing g with
  | nil => exact ⟨g, rfl, hg⟩
  | cons other rest ih =>
    obtain ⟨joined, hjoined, hlegible⟩ := rightAppend_legible hg (hrest other List.mem_cons_self)
    rw [List.foldlM_cons, hjoined]
    exact ih hlegible fun o ho ↦ hrest o (List.mem_cons_of_mem _ ho)

end TextArt.Grid
