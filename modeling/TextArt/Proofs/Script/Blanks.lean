import TextArt.Proofs.Grid.Painting
import TextArt.Proofs.Request.Tables
import TextArt.Proofs.Script.Settling

/-!
# Painting blanks cell by cell

A request to paint blank cells gives one text for all of them or a table of texts, and it may give a
mask. What it comes to is said here cell by cell: `Grid.selectedCells` are the cells that are blank
and that the mask chooses, and `Grid.InkedAt` says that these, and no others, have been painted with
the texts for their places. A single text is looked at in any case. Of a table only the texts of
selected cells are looked at, row by row, and the first that is not one character is what the
request fails over.
-/

namespace TextArt

open Script (Piece Work)

/-! ## Texts of one character -/

theorem singleChar?_eq_some {s : Text} {c : CodePoint} :
    singleChar? s = some c ↔ s = Text.singleton c := by
  constructor
  · intro h
    unfold singleChar? at h
    split at h
    · next d hchars =>
      obtain rfl := Option.some.inj h
      rw [← Text.toList_inj, hchars, Text.toList_singleton]
    · cases h
  · rintro rfl
    exact singleChar?_singleton c

theorem exists_singleChar?_iff {s : Text} : (∃ c, singleChar? s = some c) ↔ s.length = 1 := by
  simp only [singleChar?_eq_some, ← Text.length_toList, List.length_eq_one_iff,
    ← Text.toList_inj, Text.toList_singleton]

private theorem withoutFinalNuls_eq_self {s : Text} (h : Cell.hidden ∉ s.toList) :
    withoutFinalNuls s = s := by
  have hkeep : s.toList.reverse.dropWhile (fun c ↦ decide (c = .char '\x00')) =
      s.toList.reverse := by
    rw [List.dropWhile_eq_self_iff]
    intro hpos hnul
    have hlast : s.toList.reverse[0] ∈ s.toList := List.mem_reverse.1 (List.getElem_mem hpos)
    rw [decide_eq_true_iff.1 hnul] at hlast
    exact h hlast
  rw [withoutFinalNuls, hkeep, List.reverse_reverse, Text.ofList_toList]

namespace Grid

variable {g g' : Grid} {chosen chosen' : Nat → Nat → Bool}

/-! ## Cells with texts -/

/-- The selected cells of one grid hold the texts for their places in the other, and the others are
as they were. -/
structure InkedAt (g g' : Grid) (cells : Finset (Nat × Nat)) (text : Nat → Nat → Option Text) :
    Prop where
  /-- The width stays. -/
  width : g'.width = g.width
  /-- The height stays. -/
  height : g'.height = g.height
  /-- A selected cell holds its text. -/
  inked : ∀ row col, (row, col) ∈ cells →
    text row col = some (Text.singleton (g'.cellAt row col))
  /-- A cell that is not selected stays. -/
  kept : ∀ row col, row < g.height → col < g.width → (row, col) ∉ cells →
    g'.cellAt row col = g.cellAt row col

private theorem InkedAt.cellAt_eq {cells : Finset (Nat × Nat)} {text : Nat → Nat → Option Text}
    (h : g.InkedAt g' cells text) {row col : Nat} {c : Cell} (hcell : (row, col) ∈ cells)
    (htext : text row col = some (Text.singleton c)) : g'.cellAt row col = c := by
  have hsame := Option.some.inj ((h.inked row col hcell).symm.trans htext)
  rw [← Text.toList_inj, Text.toList_singleton, Text.toList_singleton] at hsame
  exact List.singleton_inj.1 hsame

private theorem inkedAt_paintChar (g : Grid) (chosen : Nat → Nat → Bool) (c : Cell) :
    g.InkedAt (g.paintChar chosen c) (g.selectedCells chosen) fun _ _ ↦
      some (Text.singleton c) := by
  refine ⟨rfl, rfl, fun row col hcell ↦ ?_, fun row col hr hc hcell ↦ ?_⟩
  · obtain ⟨⟨hr, hc⟩, hblank, hchosen⟩ := mem_selectedCells.1 hcell
    rw [paintChar, cellAt_mapCells g _ hr hc, if_pos (by simp [hblank, hchosen])]
  · rw [mem_selectedCells_iff_selected hr hc] at hcell
    rw [paintChar, cellAt_mapCells g _ hr hc]
    exact if_neg hcell

private theorem inkedAt_of_paintEach {ink : Nat → Nat → Text} {text : Nat → Nat → Option Text}
    (htext : ∀ row col, (row, col) ∈ g.selectedCells chosen →
      text row col = some (withoutFinalNuls (ink row col)))
    (h : g.paintEach chosen ink = .ok g') : g.InkedAt g' (g.selectedCells chosen) text := by
  unfold paintEach at h
  split at h
  · cases h
  · next hbad =>
    obtain rfl := Except.ok.inj h
    refine ⟨rfl, rfl, fun row col hcell ↦ ?_, fun row col hr hc hcell ↦ ?_⟩
    · obtain ⟨⟨hr, hc⟩, -⟩ := mem_selectedCells.1 hcell
      have hselected := (mem_selectedCells_iff_selected hr hc).1 hcell
      obtain ⟨c, hchar⟩ := badInk?_eq_none.1 hbad row col hr hc hselected
      rw [cellAt_mapCells g _ hr hc, htext row col hcell, singleChar?_eq_some.1 hchar]
      refine congrArg (fun c ↦ some (Text.singleton c)) ?_
      refine ((if_pos hselected).trans ?_).symm
      rw [singleChar?_singleton, Option.getD_some]
    · rw [mem_selectedCells_iff_selected hr hc] at hcell
      rw [cellAt_mapCells g _ hr hc]
      exact if_neg hcell

/-! ## Requests -/

/-- A request fails, and carried out step by step it leaves its piece as it was. -/
def RefusesPaint (g : Grid) (values mask : Value) (cause : Failure) : Prop :=
  g.requestPaint values mask = .error cause ∧
    ∀ p : Piece, p.grid = g →
      (Work.paintBlanks values mask).run p = .error (.failed cause) p

theorem refusesPaint_of_eq {values mask : Value} {cause : Failure}
    (h : g.requestPaint values mask = .error cause) : g.RefusesPaint values mask cause := by
  refine ⟨h, ?_⟩
  rintro p rfl
  rw [Work.paintBlanks_eq, h]
  rfl

theorem requestPaint_of_ink {mask : Value} (hmask : g.MaskedBy mask chosen) (values : Value) :
    ∃ chosen', g.selectedCells chosen' = g.selectedCells chosen ∧
      g.requestPaint values mask = (g.requestInk chosen' values).map fun painted ↦
        (painted, (g.selectedCells chosen).card) := by
  obtain ⟨m, hm, hstretches, hchooses⟩ := hmask.read
  have hchosen : Work.chosenBy m = m.elim (fun _ _ ↦ true) Matrix.chooses := by
    cases m <;> rfl
  have hcells : g.selectedCells (Work.chosenBy m) = g.selectedCells chosen :=
    selectedCells_congr fun row col hr hc ↦ by rw [hchosen, hchooses row col hr hc]
  refine ⟨Work.chosenBy m, hcells, ?_⟩
  rw [requestPaint, hm, ok_bind, if_pos hstretches, Work.paintBlanks_eq_requestInk hstretches,
    selectedCount_eq_card, hcells]

private theorem requestInk_text (g : Grid) (chosen : Nat → Nat → Bool) (s : Text) :
    g.requestInk chosen (.str s) = (Value.str s).cell.map (g.paintChar chosen) :=
  (map_eq_bind _ _).symm

private theorem requestPaint_text {mask : Value} (hmask : g.MaskedBy mask chosen) (s : Text) :
    (s.length ≠ 1 → g.RefusesPaint (.str s) mask (.badCharacter (.str s))) ∧
    (s.length = 1 → ∃ g', g.requestPaint (.str s) mask = .ok (g', (g.selectedCells chosen).card) ∧
      g.InkedAt g' (g.selectedCells chosen) fun _ _ ↦ some s) := by
  obtain ⟨chosen', hcells, hrequest⟩ := requestPaint_of_ink hmask (.str s)
  rw [requestInk_text, Value.cell, Value.text?, Option.bind_some] at hrequest
  constructor
  · intro hlength
    refine refusesPaint_of_eq ?_
    cases hchar : singleChar? s with
    | none => rw [hrequest, hchar, map_error, map_error]
    | some c => exact absurd (exists_singleChar?_iff.1 ⟨c, hchar⟩) hlength
  · intro hlength
    obtain ⟨c, hchar⟩ := exists_singleChar?_iff.2 hlength
    refine ⟨g.paintChar chosen' c, by rw [hrequest, hchar, map_ok, map_ok], ?_⟩
    rw [singleChar?_eq_some.1 hchar, ← hcells]
    exact g.inkedAt_paintChar chosen' c

/-- Of the selected cells whose text is not one character, the one that comes first when the rows
are read one after the other, and its text. -/
structure FirstBad (rows : List (List Text)) (cells : Finset (Nat × Nat)) (row col : Nat)
    (s : Text) : Prop where
  /-- The cell is selected. -/
  selected : (row, col) ∈ cells
  /-- The text is the one for its place. -/
  text : entryAt? rows row col = some s
  /-- The text is not one character. -/
  bad : s.length ≠ 1
  /-- The texts of all selected cells before it are. -/
  first : ∀ row' col' s', (row', col') ∈ cells → Before row' col' row col →
    entryAt? rows row' col' = some s' → s'.length = 1

private theorem requestPaint_table {mask : Value} (hmask : g.MaskedBy mask chosen)
    {rows : List (List Text)} (hrows : g.Tiled rows)
    (hnul : ∀ r ∈ rows, ∀ s ∈ r, Cell.hidden ∉ s.toList) :
    let values := Value.list (rows.map fun r ↦ .list (r.map .str))
    (∃ g', g.requestPaint values mask = .ok (g', (g.selectedCells chosen).card) ∧
      g.InkedAt g' (g.selectedCells chosen) (entryAt? rows)) ∨
    ∃ row col s, FirstBad rows (g.selectedCells chosen) row col s ∧
      g.RefusesPaint values mask (.badCharacter (.str s)) := by
  intro values
  obtain ⟨texts, hink, hfits, hget⟩ := Value.ink_texts hrows
  obtain ⟨chosen', hcells, hrequest⟩ := requestPaint_of_ink hmask values
  have hpaint : g.requestInk chosen' values =
      g.paintEach chosen' fun row col ↦ (texts.get? row col).getD "" := by
    rw [requestInk, hink, ok_bind]
    exact if_pos hfits
  -- without NULs nothing is taken off the texts
  have htext : ∀ row col s, entryAt? rows row col = some s →
      withoutFinalNuls ((texts.get? row col).getD "") = s := by
    intro row col s hs
    obtain ⟨r, hr, hsr⟩ := mem_of_entryAt? hs
    rw [hget, hs, Option.getD_some, withoutFinalNuls_eq_self (hnul r hr s hsr)]
  have hentry : ∀ row col, (row, col) ∈ g.selectedCells chosen' →
      ∃ s, entryAt? rows row col = some s :=
    fun row col hcell ↦
      hrows.exists_entry (mem_selectedCells.1 hcell).1.1 (mem_selectedCells.1 hcell).1.2
  rw [hpaint] at hrequest
  rw [← hcells]
  cases hbad : g.badInk? chosen' fun row col ↦ (texts.get? row col).getD "" with
  | none =>
    left
    have hpainted : ∃ g', (g.paintEach chosen' fun row col ↦ (texts.get? row col).getD "") =
        .ok g' := by
      rw [paintEach, hbad]
      exact ⟨_, rfl⟩
    obtain ⟨g', hg'⟩ := hpainted
    refine ⟨g', by rw [hrequest, hg', map_ok, hcells], inkedAt_of_paintEach ?_ hg'⟩
    intro row col hcell
    obtain ⟨s, hs⟩ := hentry row col hcell
    rw [hs, htext row col s hs]
  | some text =>
    right
    obtain ⟨row, col, hr, hc, hselected, htext', hnone, hfirst⟩ := exists_first_of_badInk? hbad
    have hcell := (mem_selectedCells_iff_selected hr hc).2 hselected
    obtain ⟨s, hs⟩ := hentry row col hcell
    obtain rfl : text = s := htext'.trans (htext row col s hs)
    refine ⟨row, col, text, ⟨hcell, hs, ?_, ?_⟩, refusesPaint_of_eq ?_⟩
    · intro hlength
      obtain ⟨c, hchar⟩ := exists_singleChar?_iff.2 hlength
      rw [hnone] at hchar
      cases hchar
    · intro row' col' s' hcell' hbefore hs'
      obtain ⟨⟨hr', hc'⟩, -⟩ := mem_selectedCells.1 hcell'
      have hchar := hfirst row' col' hr' hc' ((mem_selectedCells_iff_selected hr' hc').1 hcell')
        hbefore
      rw [htext row' col' s' hs'] at hchar
      exact exists_singleChar?_iff.1 hchar
    · rw [hrequest, paintEach, hbad, map_error]

/-- **Painting is a loop over the cells.** A request to paint blank cells, under whatever mask, with
one text for all of them fails unless the text is one character. With a table of texts it fails
exactly if the text of a selected cell is not one character, and it is the first such text that it
reports; other texts of the table do not matter. If it fails, nothing has been painted. Otherwise
the selected cells hold the texts for their places, all other cells are as they were, and the answer
is the number of selected cells. -/
theorem requestPaint_cellwise {mask : Value} (hmask : g.MaskedBy mask chosen) :
    let cells := g.selectedCells chosen
    (∀ s : Text,
      (s.length ≠ 1 → g.RefusesPaint (.str s) mask (.badCharacter (.str s))) ∧
      (s.length = 1 → ∃ g', g.requestPaint (.str s) mask = .ok (g', cells.card) ∧
        g.InkedAt g' cells fun _ _ ↦ some s)) ∧
    ∀ rows : List (List Text), g.Tiled rows →
      (∀ r ∈ rows, ∀ s ∈ r, Cell.hidden ∉ s.toList) →
      let values := Value.list (rows.map fun r ↦ .list (r.map .str))
      ((∃ row col s, (row, col) ∈ cells ∧ entryAt? rows row col = some s ∧ s.length ≠ 1) →
        ∃ row col s, FirstBad rows cells row col s ∧
          g.RefusesPaint values mask (.badCharacter (.str s))) ∧
      ((∀ row col s, (row, col) ∈ cells → entryAt? rows row col = some s → s.length = 1) →
        ∃ g', g.requestPaint values mask = .ok (g', cells.card) ∧
          g.InkedAt g' cells (entryAt? rows)) := by
  intro cells
  refine ⟨requestPaint_text hmask, fun rows hrows hnul ↦ ⟨?_, fun hgood ↦ ?_⟩⟩
  · rintro ⟨row, col, s, hcell, hs, hbad⟩
    refine (requestPaint_table hmask hrows hnul).resolve_left ?_
    rintro ⟨g', -, hinked⟩
    have hsingle := hs.symm.trans (hinked.inked row col hcell)
    rw [Option.some.inj hsingle] at hbad
    exact hbad (Text.length_singleton _)
  · refine (requestPaint_table hmask hrows hnul).resolve_right ?_
    rintro ⟨row, col, s, hfirst, -⟩
    exact hfirst.bad (hgood row col s hfirst.selected hfirst.text)

/-- Two rows of two cells, of which the first one is drawn. -/
def oneMark : Grid :=
  build 2 2 Nat.two_pos Nat.two_pos fun i j ↦ if i = 0 ∧ j = 0 then '+' else Cell.blank

/-- Texts for two rows of two cells; some are longer than one character, and one is empty. -/
def unevenTexts : List (List Text) := [["long", "x"], ["", "no"]]

/-- A column of flags that leaves out the lower row leaves out its bad texts, and the drawn cell has
no use for its own. Without a mask the empty text is the first that is looked at in vain. -/
theorem oneMark_requestPaint :
    let values := Value.list (unevenTexts.map fun r ↦ .list (r.map .str))
    let column := Value.list (([true, false].map fun flag ↦ [flag]).map fun r ↦ .list (r.map .bool))
    (∃ g', oneMark.requestPaint values column = .ok (g', 1) ∧
      g'.cellAt 0 0 = '+' ∧ g'.cellAt 0 1 = 'x' ∧ g'.cellAt 1 0 = Cell.blank) ∧
    ∃ row col s, FirstBad unevenTexts (oneMark.selectedCells fun _ _ ↦ true) row col s ∧
      oneMark.RefusesPaint values .null (.badCharacter (.str s)) := by
  have htiled : oneMark.Tiled unevenTexts := ⟨rfl, by decide⟩
  have hnul : ∀ r ∈ unevenTexts, ∀ s ∈ r, Cell.hidden ∉ s.toList := by decide
  intro values column
  constructor
  · let chosen : Nat → Nat → Bool := fun row _ ↦ ([true, false][row]?).getD false
    have hmask : oneMark.MaskedBy column chosen := .rows (.column rfl)
    have hcells : oneMark.selectedCells chosen = {(0, 1)} := by decide
    have hgood : ∀ row col s, (row, col) ∈ oneMark.selectedCells chosen →
        entryAt? unevenTexts row col = some s → s.length = 1 := by
      intro row col s hcell hs
      rw [hcells, Finset.mem_singleton] at hcell
      obtain ⟨rfl, rfl⟩ := Prod.mk.inj hcell
      obtain rfl := Option.some.inj hs
      rfl
    obtain ⟨g', hpaint, hinked⟩ :=
      ((requestPaint_cellwise hmask).2 unevenTexts htiled hnul).2 hgood
    rw [hcells] at hpaint hinked
    exact ⟨g', hpaint, (hinked.kept 0 0 (by decide) (by decide) (by decide)).trans rfl,
      hinked.cellAt_eq (by decide) rfl,
      (hinked.kept 1 0 (by decide) (by decide) (by decide)).trans rfl⟩
  · exact ((requestPaint_cellwise .absent).2 unevenTexts htiled hnul).1
      ⟨1, 0, "", by decide, rfl, by decide⟩

end Grid

end TextArt
