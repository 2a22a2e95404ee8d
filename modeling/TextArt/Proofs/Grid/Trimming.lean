import TextArt.Proofs.Grid.Clipping
import TextArt.Proofs.Wire.Shape

/-!
# Trimming

The box around a drawing is found from the rows and columns on which something is drawn, the first
and the last of each. What matters about it is said by `Bounds.Tight`: nothing is drawn outside, and
something on each of its four sides. No grid has two such boxes (`Bounds.Tight.unique`), so the box
that is found is the only one (`contentBounds?_eq_some_iff`), and a grid for which none is found is
blank.

To trim a grid is to cut its box out. The part that is left has the whole of itself for its box
(`Bounds.Tight.tight_region`), and stamped onto blanks at the place of the box it is the grid again
(`Bounds.Tight.overlay_region`): all that was cut off is blank, and a stamp of blanks leaves blanks.
-/

namespace TextArt

/-! ## The ends of an ascending list -/

section Ascending

variable {l : List Nat} {k i : Nat}

private theorem le_of_head?_eq_some (hl : l.Pairwise (· < ·)) (h : l.head? = some k) (hi : i ∈ l) :
    k ≤ i := by
  obtain ⟨rest, rfl⟩ := List.head?_eq_some_iff.1 h
  rcases List.mem_cons.1 hi with rfl | hi
  · exact Nat.le_refl _
  · exact Nat.le_of_lt ((List.pairwise_cons.1 hl).1 i hi)

private theorem le_of_getLast?_eq_some (hl : l.Pairwise (· < ·)) (h : l.getLast? = some k)
    (hi : i ∈ l) :
    i ≤ k := by
  obtain ⟨rest, rfl⟩ := List.getLast?_eq_some_iff.1 h
  rcases List.mem_append.1 hi with hi | hi
  · exact Nat.le_of_lt ((List.pairwise_append.1 hl).2.2 i hi k (List.mem_singleton_self k))
  · exact Nat.le_of_eq (List.mem_singleton.1 hi)

end Ascending

namespace Grid

variable {g : Grid} {b b' : Bounds} {row col : Nat}

/-! ## Drawn cells -/

theorem rowDrawn_iff :
    g.rowDrawn row = true ↔ ∃ col < g.width, g.cellAt row col ≠ Cell.blank := by
  simp [rowDrawn]

private theorem colDrawn_iff :
    g.colDrawn col = true ↔ ∃ row < g.height, g.cellAt row col ≠ Cell.blank := by
  simp [colDrawn]

theorem mem_drawnRows : row ∈ (List.range g.height).filter g.rowDrawn ↔
    ∃ col, g.cellAt row col ≠ Cell.blank := by
  rw [List.mem_filter, List.mem_range, rowDrawn_iff]
  constructor
  · rintro ⟨-, col, -, hdrawn⟩
    exact ⟨col, hdrawn⟩
  · rintro ⟨col, hdrawn⟩
    exact ⟨(lt_of_drawn hdrawn).1, col, (lt_of_drawn hdrawn).2, hdrawn⟩

theorem mem_drawnCols : col ∈ (List.range g.width).filter g.colDrawn ↔
    ∃ row, g.cellAt row col ≠ Cell.blank := by
  rw [List.mem_filter, List.mem_range, colDrawn_iff]
  constructor
  · rintro ⟨-, row, -, hdrawn⟩
    exact ⟨row, hdrawn⟩
  · rintro ⟨row, hdrawn⟩
    exact ⟨(lt_of_drawn hdrawn).2, row, (lt_of_drawn hdrawn).1, hdrawn⟩

/-! ## Tight boxes -/

/-- Nothing is drawn outside a box, and something on each of its sides. -/
structure Bounds.Tight (b : Bounds) (g : Grid) : Prop where
  /-- Something is drawn on the first row. -/
  top : ∃ col, g.cellAt b.minRow col ≠ Cell.blank
  /-- Something is drawn on the last row. -/
  bottom : ∃ col, g.cellAt b.maxRow col ≠ Cell.blank
  /-- Something is drawn on the first column. -/
  left : ∃ row, g.cellAt row b.minCol ≠ Cell.blank
  /-- Something is drawn on the last column. -/
  right : ∃ row, g.cellAt row b.maxCol ≠ Cell.blank
  /-- All that is drawn lies inside. -/
  inside : ∀ row col, g.cellAt row col ≠ Cell.blank →
    (b.minRow ≤ row ∧ row ≤ b.maxRow) ∧ b.minCol ≤ col ∧ col ≤ b.maxCol

private theorem Bounds.Tight.sides_inside (h : b.Tight g) (h' : b'.Tight g) :
    (b'.minRow ≤ b.minRow ∧ b.maxRow ≤ b'.maxRow) ∧
      b'.minCol ≤ b.minCol ∧ b.maxCol ≤ b'.maxCol := by
  obtain ⟨_, htop⟩ := h.top
  obtain ⟨_, hbottom⟩ := h.bottom
  obtain ⟨_, hleft⟩ := h.left
  obtain ⟨_, hright⟩ := h.right
  exact ⟨⟨(h'.inside _ _ htop).1.1, (h'.inside _ _ hbottom).1.2⟩,
    (h'.inside _ _ hleft).2.1, (h'.inside _ _ hright).2.2⟩

private theorem Bounds.Tight.unique (h : b.Tight g) (h' : b'.Tight g) : b = b' := by
  have hle := h.sides_inside h'
  have hge := h'.sides_inside h
  obtain ⟨minRow, maxRow, minCol, maxCol⟩ := b
  obtain ⟨minRow', maxRow', minCol', maxCol'⟩ := b'
  dsimp only at hle hge
  rw [Bounds.mk.injEq]
  omega

theorem tight_of_contentBounds? (h : g.contentBounds? = some b) : b.Tight g := by
  have hrows := (List.pairwise_lt_range (n := g.height)).filter g.rowDrawn
  have hcols := (List.pairwise_lt_range (n := g.width)).filter g.colDrawn
  unfold contentBounds? at h
  dsimp only at h
  split at h
  · next top bottom left right htop hbottom hleft hright =>
    obtain rfl := Option.some.inj h
    refine ⟨mem_drawnRows.1 (List.mem_of_mem_head? htop),
      mem_drawnRows.1 (List.mem_of_getLast? hbottom),
      mem_drawnCols.1 (List.mem_of_mem_head? hleft),
      mem_drawnCols.1 (List.mem_of_getLast? hright), fun row col hdrawn ↦ ?_⟩
    have hrow := mem_drawnRows.2 ⟨col, hdrawn⟩
    have hcol := mem_drawnCols.2 ⟨row, hdrawn⟩
    exact ⟨⟨le_of_head?_eq_some hrows htop hrow, le_of_getLast?_eq_some hrows hbottom hrow⟩,
      le_of_head?_eq_some hcols hleft hcol, le_of_getLast?_eq_some hcols hright hcol⟩
  · cases h

theorem exists_contentBounds? (h : g.cellAt row col ≠ Cell.blank) :
    ∃ b, g.contentBounds? = some b := by
  have hrows := List.ne_nil_of_mem (mem_drawnRows.2 ⟨col, h⟩)
  have hcols := List.ne_nil_of_mem (mem_drawnCols.2 ⟨row, h⟩)
  refine Option.isSome_iff_exists.1 ?_
  simp only [contentBounds?, List.head?_eq_some_head hrows, List.getLast?_eq_some_getLast hrows,
    List.head?_eq_some_head hcols, List.getLast?_eq_some_getLast hcols, Option.isSome_some]

/-- **The box around a drawing.** It is the one that is tight. -/
theorem contentBounds?_eq_some_iff : g.contentBounds? = some b ↔ b.Tight g := by
  refine ⟨tight_of_contentBounds?, fun h ↦ ?_⟩
  obtain ⟨col, hdrawn⟩ := h.top
  obtain ⟨b', hb'⟩ := exists_contentBounds? hdrawn
  rw [hb', h.unique (tight_of_contentBounds? hb')]

private theorem contentBounds?_eq_none_iff :
    g.contentBounds? = none ↔
      ∀ row < g.height, ∀ col < g.width, g.cellAt row col = Cell.blank := by
  constructor
  · intro h row _ col _
    by_contra hdrawn
    obtain ⟨b, hb⟩ := exists_contentBounds? hdrawn
    exact Option.some_ne_none b (hb.symm.trans h)
  · intro h
    by_contra hsome
    obtain ⟨b, hb⟩ := Option.ne_none_iff_exists'.1 hsome
    obtain ⟨col, hdrawn⟩ := (tight_of_contentBounds? hb).top
    have hlt := lt_of_drawn hdrawn
    exact hdrawn (h _ hlt.1 _ hlt.2)

/-! ## Trimmed grids -/

/-- The part of a grid inside a box, whose last row and column belong to it. -/
def region (g : Grid) (b : Bounds) : Grid :=
  g.clip b.minRow (b.maxRow + 1) b.minCol (b.maxCol + 1)

namespace Bounds.Tight

theorem bounds (h : b.Tight g) :
    (b.minRow ≤ b.maxRow ∧ b.maxRow < g.height) ∧ b.minCol ≤ b.maxCol ∧ b.maxCol < g.width := by
  obtain ⟨col, htop⟩ := h.top
  obtain ⟨_, hbottom⟩ := h.bottom
  obtain ⟨row, hleft⟩ := h.left
  obtain ⟨_, hright⟩ := h.right
  exact ⟨⟨(h.inside _ _ htop).1.2, (lt_of_drawn hbottom).1⟩, (h.inside _ _ hleft).2.2,
    (lt_of_drawn hright).2⟩

variable (h : b.Tight g)
include h

theorem clamp_eq : (clamp b.minRow g.height = b.minRow ∧
      clamp (b.maxRow + 1) g.height = b.maxRow + 1) ∧
    clamp b.minCol g.width = b.minCol ∧ clamp (b.maxCol + 1) g.width = b.maxCol + 1 := by
  have hbounds := h.bounds
  unfold clamp
  omega

theorem hasRegion : g.HasRegion b.minRow (b.maxRow + 1) b.minCol (b.maxCol + 1) := by
  have hbounds := h.bounds
  rw [HasRegion, h.clamp_eq.1.1, h.clamp_eq.1.2, h.clamp_eq.2.1, h.clamp_eq.2.2]
  omega

theorem height_region : (g.region b).height = b.height := by
  have hbounds := h.bounds
  rw [region, height_clip h.hasRegion, h.clamp_eq.1.1, h.clamp_eq.1.2, Bounds.height]
  omega

theorem width_region : (g.region b).width = b.width := by
  have hbounds := h.bounds
  rw [region, width_clip h.hasRegion, h.clamp_eq.2.1, h.clamp_eq.2.2, Bounds.width]
  omega

theorem cellAt_region (i j : Nat) :
    (g.region b).cellAt i j = g.cellAt (b.minRow + i) (b.minCol + j) := by
  by_cases hin : i < (g.region b).height ∧ j < (g.region b).width
  · rw [region, height_clip h.hasRegion, width_clip h.hasRegion] at hin
    rw [region, cellAt_clip h.hasRegion hin.1 hin.2, h.clamp_eq.1.1, h.clamp_eq.2.1]
  · -- beyond the last row or column of the box nothing is drawn
    rw [cellAt_of_outside _ hin]
    by_contra hdrawn
    have hinside := h.inside _ _ (Ne.symm hdrawn)
    rw [h.height_region, h.width_region, Bounds.height, Bounds.width] at hin
    omega

private theorem drawn_region (hdrawn : g.cellAt row col ≠ Cell.blank) :
    (g.region b).cellAt (row - b.minRow) (col - b.minCol) ≠ Cell.blank := by
  have hinside := h.inside row col hdrawn
  rw [h.cellAt_region, Nat.add_sub_cancel' hinside.1.1, Nat.add_sub_cancel' hinside.2.1]
  exact hdrawn

private theorem tight_region : Tight ⟨0, b.height - 1, 0, b.width - 1⟩ (g.region b) := by
  obtain ⟨c₁, htop⟩ := h.top
  obtain ⟨c₂, hbottom⟩ := h.bottom
  obtain ⟨r₁, hleft⟩ := h.left
  obtain ⟨r₂, hright⟩ := h.right
  have hrows : b.height - 1 = b.maxRow - b.minRow := rfl
  have hcols : b.width - 1 = b.maxCol - b.minCol := rfl
  refine ⟨⟨c₁ - b.minCol, ?_⟩, ⟨c₂ - b.minCol, ?_⟩, ⟨r₁ - b.minRow, ?_⟩, ⟨r₂ - b.minRow, ?_⟩,
    fun row col hdrawn ↦ ?_⟩
  · have hcell := h.drawn_region htop
    rwa [Nat.sub_self] at hcell
  · exact h.drawn_region hbottom
  · have hcell := h.drawn_region hleft
    rwa [Nat.sub_self] at hcell
  · exact h.drawn_region hright
  · have hlt := lt_of_drawn hdrawn
    rw [h.height_region, h.width_region] at hlt
    dsimp only
    omega

private theorem overlay_region :
    (blank g.width g.height g.width_pos g.height_pos).overlay (g.region b) b.minRow b.minCol
      none true = g := by
  refine ext_cellAt (width_overlay ..) (height_overlay ..) fun i j hi hj ↦ ?_
  rw [height_overlay] at hi
  rw [width_overlay] at hj
  rw [cellAt_overlay_blank _ _ _ _ hi hj fun _ _ ↦ cellAt_blank i j]
  split
  · next hafter => rw [h.cellAt_region, Nat.add_sub_cancel' hafter.1, Nat.add_sub_cancel' hafter.2]
  · next hbefore =>
    -- before the first row or column of the box nothing is drawn
    rw [cellAt_blank]
    by_contra hdrawn
    have hinside := h.inside i j (Ne.symm hdrawn)
    omega

end Bounds.Tight

/-- **Trimming.** A grid without a box is blank, and a blank one has none. The box of any other grid
can be cut out and stamped back onto blanks, and nothing is lost; of the part that is cut out the
first and last row and column are drawn on, and its own box is all of it. -/
theorem trim_and_restore (g : Grid) :
    (g.contentBounds? = none ↔
      ∀ row < g.height, ∀ col < g.width, g.cellAt row col = Cell.blank) ∧
    ∀ b, g.contentBounds? = some b → ∃ canvas part : Grid,
      requestNew (.int g.width) (.int g.height) = .ok canvas ∧
      g.requestClip (.int b.minRow) (.int (b.maxRow + 1)) (.int b.minCol) (.int (b.maxCol + 1)) =
        .ok part ∧
      canvas.requestOverlay part (.int b.minRow) (.int b.minCol) .null (.bool true) = .ok g ∧
      (part.width = b.width ∧ part.height = b.height) ∧
      (part.rowDrawn 0 = true ∧ part.rowDrawn (part.height - 1) = true ∧
        part.colDrawn 0 = true ∧ part.colDrawn (part.width - 1) = true) ∧
      part.contentBounds? = some ⟨0, part.height - 1, 0, part.width - 1⟩ := by
  refine ⟨contentBounds?_eq_none_iff, fun b hb ↦ ?_⟩
  have h := contentBounds?_eq_some_iff.1 hb
  have hpart := h.tight_region
  rw [← h.height_region, ← h.width_region] at hpart
  refine ⟨_, g.region b, Shape.requestNew_positive ⟨g.width, g.width_pos⟩ ⟨g.height, g.height_pos⟩,
    requestClip_int .., ?_, ⟨h.width_region, h.height_region⟩, ⟨?_, ?_, ?_, ?_⟩,
    contentBounds?_eq_some_iff.2 hpart⟩
  · rw [requestOverlay_whole]
    exact congrArg Except.ok h.overlay_region
  · exact (List.mem_filter.1 (mem_drawnRows.2 hpart.top)).2
  · exact (List.mem_filter.1 (mem_drawnRows.2 hpart.bottom)).2
  · exact (List.mem_filter.1 (mem_drawnCols.2 hpart.left)).2
  · exact (List.mem_filter.1 (mem_drawnCols.2 hpart.right)).2

/-- Three marks around a blank, with blanks on all sides. -/
def hook : Grid :=
  build 4 4 (Nat.succ_pos 3) (Nat.succ_pos 3) fun i j ↦
    if (i = 1 ∨ i = 2) ∧ (j = 1 ∨ j = 2) ∧ i + j < 4 then '#' else Cell.blank

/-- The marks are cut out with the blank between them and put back. -/
theorem hook_trim_and_restore :
    hook.contentBounds? = some ⟨1, 2, 1, 2⟩ ∧
    ∃ canvas part : Grid,
      requestNew (.int hook.width) (.int hook.height) = .ok canvas ∧
      hook.requestClip (.int 1) (.int (2 + 1)) (.int 1) (.int (2 + 1)) = .ok part ∧
      canvas.requestOverlay part (.int 1) (.int 1) .null (.bool true) = .ok hook ∧
      (part.width = 2 ∧ part.height = 2) ∧
      part.colDrawn (part.width - 1) = true ∧
      part.contentBounds? = some ⟨0, part.height - 1, 0, part.width - 1⟩ := by
  have hbounds : hook.contentBounds? = some ⟨1, 2, 1, 2⟩ := by decide
  obtain ⟨canvas, part, hcanvas, hpart, hback, hsize, ⟨-, -, -, hright⟩, hall⟩ :=
    (trim_and_restore hook).2 _ hbounds
  exact ⟨hbounds, canvas, part, hcanvas, hpart, hback, hsize, hright, hall⟩

end Grid

end TextArt
