import TextArt.Proofs.Grid.Text
import TextArt.Proofs.Text.Parts

/-!
# Which grids read back

A grid that is written out and read again is the same grid if its text has one line for every row
and one character for every cell. That is so exactly if it is legible: a hidden cell has no
character in its line, and a line feed in a cell ends the line early (`readsBack_iff_legible`).

Reading does not bring either of them in. A text without hidden characters makes a legible grid,
since its line feeds are gone with the ends of the lines (`legible_of_ofText`).
-/

namespace TextArt.Grid

variable {g : Grid}

/-- The text of the grid is made of its rows, and the grid is read back from it. -/
structure ReadsBack (g : Grid) : Prop where
  /-- The text has one line for every row. -/
  height : (rowsOf g.toText.toList).length = g.height
  /-- Every line has one character for every column. -/
  width : ∀ line ∈ rowsOf g.toText.toList, line.length = g.width
  /-- What is read from the text is the grid. -/
  read : ofText g.toText = .ok g

/-! ## Reading -/

/-- The lines of a text hold its characters, all but the line feeds. -/
theorem mem_of_mem_rowsOf {text line : List CodePoint} (hline : line ∈ rowsOf text) {c : CodePoint}
    (hc : c ∈ line) : c ∈ text ∧ c ≠ '\n' :=
  Text.mem_of_mem_splitOn hline hc

theorem ofText_eq_ok {content : Text} : ofText content = .ok g ↔ ofText? content = some g := by
  unfold ofText
  cases ofText? content <;> simp

/-- What is read from a text without hidden characters is legible. -/
theorem legible_of_ofText {content : Text} (hshown : Cell.hidden ∉ content.toList)
    (h : ofText content = .ok g) : g.Legible := by
  obtain ⟨-, -, hcell⟩ := cellAt_of_ofRows? (ofText_eq_ok.1 h)
  refine legible_of_inside fun row col hr hc ↦ ?_
  rw [hcell row col hr hc, charOf]
  cases hchars : (rowsOf content.toList)[row]? with
  | none => exact Cell.legible_blank
  | some chars =>
    rw [Option.bind_some]
    cases hchar : chars[col]? with
    | none => exact Cell.legible_blank
    | some c =>
      obtain ⟨hmem, hne⟩ :=
        mem_of_mem_rowsOf (List.mem_of_getElem? hchars) (List.mem_of_getElem? hchar)
      exact ⟨fun hnul ↦ hshown (hnul ▸ hmem), hne⟩

/-! ## Writing out and reading again -/

/-- Lines without hidden characters are joined to a text without them. -/
theorem hidden_not_mem_intercalate {lines : List Text}
    (h : ∀ l ∈ lines, Cell.hidden ∉ l.toList) :
    Cell.hidden ∉ (Text.intercalate "\n" lines).toList := by
  rw [Text.toList_intercalate]
  intro hmem
  obtain hbreak | ⟨line, hline, hc⟩ := Text.mem_of_mem_intercalate hmem
  · exact absurd hbreak (by decide)
  · obtain ⟨l, hl, rfl⟩ := List.mem_map.1 hline
    exact h l hl hc

private theorem hidden_not_mem_toText (g : Grid) : Cell.hidden ∉ g.toText.toList := by
  refine hidden_not_mem_intercalate fun l hl hc ↦ ?_
  obtain ⟨row, -, rfl⟩ := List.mem_map.1 hl
  rw [rowText, Text.toList_ofList, textOf, List.mem_filter] at hc
  simp at hc

theorem length_rowCells (g : Grid) (row : Nat) : (g.rowCells row).length = g.width := by
  rw [rowCells, List.length_map, List.length_range]

theorem map_toList_lines (hg : g.Legible) : g.lines.map Text.toList = g.rowList := by
  rw [lines, rowList, List.map_map]
  exact List.map_congr_left fun row _ ↦ toList_rowText hg row

theorem rowsOf_toText (hg : g.Legible) : rowsOf g.toText.toList = g.rowList := by
  have hne : g.lines ≠ [] := by
    rw [lines, Ne, List.map_eq_nil_iff, List.range_eq_nil]
    exact Nat.ne_of_gt g.height_pos
  rw [toText, rowsOf_intercalate hne, map_toList_lines hg]
  intro l hl hbreak
  exact (legible_of_mem_lines hg hl hbreak).2 rfl

theorem length_of_mem_rowList {line : List Cell} (h : line ∈ g.rowList) :
    line.length = g.width := by
  obtain ⟨row, -, rfl⟩ := List.mem_map.1 h
  exact length_rowCells g row

theorem maxLength_rowList (g : Grid) : maxLength g.rowList = g.width := by
  have hfirst : g.rowCells 0 ∈ g.rowList := List.mem_map_of_mem (List.mem_range.2 g.height_pos)
  apply Nat.le_antisymm
  · exact maxLength_le fun r hr ↦ Nat.le_of_eq (length_of_mem_rowList hr)
  · have hle := length_le_maxLength hfirst
    rwa [length_rowCells] at hle

theorem length_rowList (g : Grid) : g.rowList.length = g.height := by
  rw [rowList, List.length_map, List.length_range]

theorem charOf_rowList {row col : Nat} (hr : row < g.height) (hc : col < g.width) :
    charOf g.rowList row col = g.cellAt row col := by
  simp [charOf, rowList, rowCells, hr, hc]

/-- A hidden cell is the only one without text, so whatever tells the characters from each other and
from no text tells the cells from each other. -/
theorem injective_comp_text {β : Type} {f : Text → β}
    (hchar : Function.Injective fun c ↦ f (Text.singleton c))
    (hempty : ∀ c, f (Text.singleton c) ≠ f "") : Function.Injective fun c : Cell ↦ f c.text := by
  have hhidden : Cell.hidden.text = "" := rfl
  have hshown : ∀ {c : Cell}, c ≠ Cell.hidden → c.text = Text.singleton c := fun hc ↦ if_neg hc
  intro c d h
  dsimp only at h
  by_cases hc : c = Cell.hidden <;> by_cases hd : d = Cell.hidden
  · exact hc.trans hd.symm
  · rw [hc, hhidden, hshown hd] at h
    exact absurd h.symm (hempty d)
  · rw [hd, hhidden, hshown hc] at h
    exact absurd h (hempty c)
  · rw [hshown hc, hshown hd] at h
    exact hchar h

/-- The rows determine a grid. -/
theorem rowList_injective : Function.Injective rowList := by
  intro g h heq
  have hwidth : g.width = h.width := by rw [← maxLength_rowList g, heq, maxLength_rowList]
  have hheight : g.height = h.height := by rw [← length_rowList g, heq, length_rowList]
  refine ext_cellAt hwidth hheight fun row col hr hc ↦ ?_
  rw [← charOf_rowList hr hc, heq, charOf_rowList (hheight ▸ hr) (hwidth ▸ hc)]

/-- A legible grid is read back from its text. -/
theorem ofText_toText (hg : g.Legible) : ofText g.toText = .ok g := by
  have hink : ∃ r ∈ g.rowList, r ≠ [] := by
    refine ⟨g.rowCells 0, List.mem_map_of_mem (List.mem_range.2 g.height_pos), ?_⟩
    rw [← List.length_pos_iff, length_rowCells]
    exact g.width_pos
  obtain ⟨g', hg', hw, hh, hcell⟩ := ofRows?_eq_some hink
  have heq : g' = g := by
    have hw' : g'.width = g.width := hw.trans (maxLength_rowList g)
    have hh' : g'.height = g.height := hh.trans (length_rowList g)
    refine ext_cellAt hw' hh' fun row col hr hc ↦ ?_
    rw [hcell row col hr hc, charOf_rowList (hh' ▸ hr) (hw' ▸ hc)]
  rw [ofText_eq_ok, ofText?, rowsOf_toText hg, hg', heq]

/-- **Reading back.** Just the legible grids are written out in rows of their own width and read
back as they are. -/
theorem readsBack_iff_legible : g.ReadsBack ↔ g.Legible := by
  constructor
  · intro h
    exact legible_of_ofText (hidden_not_mem_toText g) h.read
  · intro hg
    refine ⟨?_, fun line hline ↦ ?_, ofText_toText hg⟩
    · rw [rowsOf_toText hg, rowList, List.length_map, List.length_range]
    · rw [rowsOf_toText hg] at hline
      exact length_of_mem_rowList hline

/-- One cell with a hidden character or a line feed is enough. -/
theorem not_readsBack_set {row col : Nat} (hr : row < g.height) (hc : col < g.width) {c : Cell}
    (h : ¬ c.Legible) : ¬ (g.set row col c).ReadsBack := by
  intro hread
  have hcell := readsBack_iff_legible.1 hread row col
  rw [cellAt_set g _ _ c hr hc, if_pos ⟨rfl, rfl⟩] at hcell
  exact h hcell

end TextArt.Grid
