import Mathlib.Data.Finset.Prod
import TextArt.Proofs.Fields
import TextArt.Proofs.Fill.Repaint

/-!
# Painting place by place

A text is looked at only where it is painted with, that is at the blank cells that are chosen, and
every one of those that is not a single character stops the whole. This module says when painting
stops (`badInk?_eq_none`) and over which text (`exists_first_of_badInk?`), which cells it is about
(`selectedCells`), and when it leaves nothing blank: what is chosen has to be every cell, and the
texts have to be without blanks. A grid without blank cells is the end of all painting, since it can
be repainted only as itself (`Repaints.eq_of_full`).
-/

namespace TextArt.Grid

variable {g g' : Grid} {mask chosen chosen' : Nat → Nat → Bool} {ink : Nat → Nat → Text}

theorem mem_places {row col : Nat} : (row, col) ∈ g.places ↔ row < g.height ∧ col < g.width := by
  simp [places]

theorem selected_eq_true {row col : Nat} :
    g.selected mask row col = true ↔ g.cellAt row col = Cell.blank ∧ mask row col = true := by
  rw [selected, Bool.and_eq_true, beq_iff_eq]

/-- Nothing is wrong with an ink exactly if it has a single character for each selected cell. -/
theorem badInk?_eq_none : g.badInk? mask ink = none ↔
    ∀ row col, row < g.height → col < g.width → g.selected mask row col = true →
      ∃ c, singleChar? (withoutFinalNuls (ink row col)) = some c := by
  rw [badInk?, List.findSome?_eq_none_iff]
  constructor
  · intro h row col hr hc hselected
    have hplace := h (row, col) (mem_places.2 ⟨hr, hc⟩)
    rw [← Option.isSome_iff_exists, ← Option.ne_none_iff_isSome]
    simpa [hselected] using hplace
  · rintro h ⟨row, col⟩ hplace
    obtain ⟨hr, hc⟩ := mem_places.1 hplace
    by_cases hselected : g.selected mask row col = true
    · obtain ⟨c, hchar⟩ := h row col hr hc hselected
      simp [hchar]
    · simp [hselected]

/-- Places are in the order in which they are read: by rows, and in a row by columns. -/
def Before (row col row' col' : Nat) : Prop := row < row' ∨ row = row' ∧ col < col'

theorem pairwise_places (g : Grid) :
    g.places.Pairwise fun p q ↦ Before p.1 p.2 q.1 q.2 := by
  refine List.pairwise_flatMap.2 ⟨fun row _ ↦ ?_, ?_⟩
  · exact List.pairwise_map.2 (List.pairwise_lt_range.imp fun h ↦ .inr ⟨rfl, h⟩)
  · refine List.pairwise_lt_range.imp fun {row row'} hlt p hp q hq ↦ ?_
    obtain ⟨col, -, rfl⟩ := List.mem_map.1 hp
    obtain ⟨col', -, rfl⟩ := List.mem_map.1 hq
    exact .inl hlt

/-- What is wrong with an ink is the text of a selected cell, and no cell before that one is
selected whose text is not a single character. -/
theorem exists_first_of_badInk? {text : Text} (h : g.badInk? mask ink = some text) :
    ∃ row col, row < g.height ∧ col < g.width ∧ g.selected mask row col = true ∧
      text = withoutFinalNuls (ink row col) ∧ singleChar? text = none ∧
      ∀ row' col', row' < g.height → col' < g.width → g.selected mask row' col' = true →
        Before row' col' row col →
          ∃ c, singleChar? (withoutFinalNuls (ink row' col')) = some c := by
  obtain ⟨before, ⟨row, col⟩, after, hplaces, hbad, hfine⟩ := List.findSome?_eq_some_iff.1 h
  have hplace : (row, col) ∈ g.places := by simp [hplaces]
  obtain ⟨hr, hc⟩ := mem_places.1 hplace
  dsimp only at hbad
  split at hbad
  · next hcond =>
    obtain rfl := Option.some.inj hbad
    obtain ⟨hselected, hnone⟩ := Bool.and_eq_true_iff.1 hcond
    refine ⟨row, col, hr, hc, hselected, rfl, Option.isNone_iff_eq_none.1 hnone, ?_⟩
    intro row' col' hr' hc' hselected' hbefore
    -- a place that is read before this one comes before it in the list
    have hmem : (row', col') ∈ before := by
      have hplace' : (row', col') ∈ g.places := mem_places.2 ⟨hr', hc'⟩
      have hordered := g.pairwise_places
      rw [hplaces] at hplace' hordered
      rcases List.mem_append.1 hplace' with hmem | hmem
      · exact hmem
      · exfalso
        unfold Before at hbefore
        rcases List.mem_cons.1 hmem with heq | hmem
        · obtain ⟨rfl, rfl⟩ := Prod.mk.inj heq
          omega
        · have hafter : Before row col row' col' :=
            (List.pairwise_cons.1 (List.pairwise_append.1 hordered).2.1).1 _ hmem
          unfold Before at hafter
          omega
    have hgood := hfine _ hmem
    rw [← Option.isSome_iff_exists, ← Option.ne_none_iff_isSome]
    simpa [hselected'] using hgood
  · cases hbad

/-- What is wrong with an ink is the text of a selected cell. -/
theorem badInk?_eq_some {text : Text} (h : g.badInk? mask ink = some text) :
    ∃ row col, row < g.height ∧ col < g.width ∧ g.selected mask row col = true ∧
      text = withoutFinalNuls (ink row col) ∧ singleChar? text = none := by
  obtain ⟨row, col, hr, hc, hselected, htext, hnone, -⟩ := exists_first_of_badInk? h
  exact ⟨row, col, hr, hc, hselected, htext, hnone⟩

/-! ## The cells that are painted -/

/-- The cells that are blank and chosen. -/
def selectedCells (g : Grid) (chosen : Nat → Nat → Bool) : Finset (Nat × Nat) :=
  (Finset.range g.height ×ˢ Finset.range g.width).filter fun p ↦
    g.cellAt p.1 p.2 = Cell.blank ∧ chosen p.1 p.2 = true

theorem mem_selectedCells {row col : Nat} : (row, col) ∈ g.selectedCells chosen ↔
    (row < g.height ∧ col < g.width) ∧ g.cellAt row col = Cell.blank ∧ chosen row col = true := by
  simp [selectedCells]

theorem mem_selectedCells_iff_selected {row col : Nat} (hr : row < g.height) (hc : col < g.width) :
    (row, col) ∈ g.selectedCells chosen ↔ g.selected chosen row col = true := by
  rw [mem_selectedCells, selected_eq_true, and_iff_right ⟨hr, hc⟩]

private theorem nodup_places (g : Grid) : g.places.Nodup :=
  g.pairwise_places.imp fun h heq ↦ by
    unfold Before at h
    subst heq
    omega

theorem selectedCount_eq_card (g : Grid) (chosen : Nat → Nat → Bool) :
    g.selectedCount chosen = (g.selectedCells chosen).card := by
  rw [selectedCount, ← List.toFinset_card_of_nodup (g.nodup_places.filter _)]
  congr 1
  ext ⟨row, col⟩
  rw [List.mem_toFinset, List.mem_filter, mem_places, mem_selectedCells, selected_eq_true]

/-- Masks that choose the same cells of a grid select the same. -/
theorem selectedCells_congr
    (h : ∀ row col, row < g.height → col < g.width → chosen row col = chosen' row col) :
    g.selectedCells chosen = g.selectedCells chosen' := by
  ext ⟨row, col⟩
  simp only [mem_selectedCells]
  refine and_congr_right fun hplace ↦ ?_
  rw [h row col hplace.1 hplace.2]

/-! ## Nothing left to paint -/

/-- No cell of the grid is blank. -/
def Full (g : Grid) : Prop :=
  ∀ row col, row < g.height → col < g.width → g.cellAt row col ≠ Cell.blank

theorem Repaints.trans {g₁ g₂ g₃ : Grid} (h : g₁.Repaints g₂) (h' : g₂.Repaints g₃) :
    g₁.Repaints g₃ := by
  refine ⟨h'.width.trans h.width, h'.height.trans h.height, fun row col hr hc hdrawn ↦ ?_⟩
  have hsame := h.drawn row col hr hc hdrawn
  rw [h'.drawn row col (h.height ▸ hr) (h.width ▸ hc) (by rwa [hsame]), hsame]

/-- A grid without blank cells can be repainted only as itself. -/
theorem Repaints.eq_of_full (h : g.Repaints g') (hfull : g.Full) : g' = g := by
  refine ext_cellAt h.width h.height fun row col hr hc ↦ ?_
  have hr : row < g.height := h.height ▸ hr
  have hc : col < g.width := h.width ▸ hc
  exact h.drawn row col hr hc (hfull row col hr hc)

theorem full_mapCells {f : Nat → Nat → Cell → Cell}
    (h : ∀ row col, row < g.height → col < g.width →
      f row col (g.cellAt row col) ≠ Cell.blank) : (g.mapCells f).Full := by
  intro row col hr hc
  rw [cellAt_mapCells g f hr hc]
  exact h row col hr hc

/-- A character that is not the blank leaves none where everything is chosen. -/
theorem full_paintChar {c : Cell} (hc : c ≠ Cell.blank)
    (hmask : ∀ row col, row < g.height → col < g.width → mask row col = true) :
    (g.paintChar mask c).Full := by
  refine full_mapCells fun row col hr hcol ↦ ?_
  rw [hmask row col hr hcol, Bool.and_true]
  split
  · exact hc
  · next hdrawn => simpa using hdrawn

/-- Texts without blanks leave no blank where everything is chosen. -/
theorem full_of_paintEach (hmask : ∀ row col, row < g.height → col < g.width → mask row col = true)
    (hink : ∀ row col, Cell.blank ∉ (ink row col).toList) (h : g.paintEach mask ink = .ok g') :
    g'.Full := by
  unfold paintEach at h
  split at h
  · cases h
  · next hbad =>
    obtain rfl := Except.ok.inj h
    refine full_mapCells fun row col hr hc ↦ ?_
    have hchosen := hmask row col hr hc
    rw [hchosen, Bool.and_true]
    split
    · next hblank =>
      obtain ⟨c, hchar⟩ :=
        badInk?_eq_none.1 hbad row col hr hc (selected_eq_true.2 ⟨by simpa using hblank, hchosen⟩)
      rw [hchar]
      rintro rfl
      exact hink row col (mem_of_mem_withoutFinalNuls (mem_of_singleChar? hchar))
    · next hdrawn => simpa using hdrawn

end TextArt.Grid
