import TextArt.Proofs.Fill.Calls

/-!
# Dots by their density

A number is drawn for every cell of the grid, drawn on or not, and dots go where it is below the
density. So the numbers depend on the seed and on the size of the grid alone, and one run can be
compared with another: with more density no dot goes away, and what is drawn on a grid decides which
dots can be seen, but not where they are. A seed is given by its words; where neither the call nor
the settings have one, random words take their place.
-/

namespace TextArt

namespace Grid

variable {g g' : Grid}

/-- The cells that hold something else in the other grid. -/
def changedCells (g g' : Grid) : Finset (Nat × Nat) :=
  (Finset.range g.height ×ˢ Finset.range g.width).filter fun p ↦
    g'.cellAt p.1 p.2 ≠ g.cellAt p.1 p.2

private theorem mem_changedCells {row col : Nat} : (row, col) ∈ g.changedCells g' ↔
    (row < g.height ∧ col < g.width) ∧ g'.cellAt row col ≠ g.cellAt row col := by
  simp [changedCells]

private theorem changedCells_paintChar (g : Grid) (chosen : Nat → Nat → Bool) {c : Cell}
    (hc : c ≠ Cell.blank) : g.changedCells (g.paintChar chosen c) = g.selectedCells chosen := by
  ext ⟨row, col⟩
  rw [mem_changedCells, mem_selectedCells]
  refine and_congr_right fun ⟨hr, hcol⟩ ↦ ?_
  rw [paintChar_eq_fillBlanks, cellAt_fillBlanks g _ hr hcol]
  by_cases hblank : g.cellAt row col = Cell.blank
  · cases chosen row col <;> simp [hblank, hc]
  · simp [hblank]

end Grid

namespace FillRegistry

open Pattern (dotSeed dotMask)

variable {settings : FillSettings} {seed density : Value} {words : List UInt32} {d : Number}

theorem call_dots_of_inUnit (hseed : dotSeed settings seed = .ok words)
    (hnumber : density.number = .ok d) (hunit : d.InUnit) (g : Grid) (c : CodePoint) :
    standard.call g (.dots settings density seed c) =
      .ok (g.paintChar (dotMask g.width (Scatter.field words g.width g.height) d) c) := by
  rw [call_dots, Pattern.requestDots_of_number settings g hnumber hunit.1 hunit.2, hseed, map_ok]

variable {c : CodePoint}

private theorem exists_call_dots (hseed : dotSeed settings seed = .ok words) (hc : c ≠ Cell.blank)
    (hnumber : density.number = .ok d) (hunit : d.InUnit) (g : Grid) :
    ∃ g', standard.call g (.dots settings density seed c) = .ok g' ∧
      g.changedCells g' =
        g.selectedCells (dotMask g.width (Scatter.field words g.width g.height) d) :=
  ⟨_, call_dots_of_inUnit hseed hnumber hunit g c, g.changedCells_paintChar _ hc⟩

private theorem call_dots_of_same_zero (hseed : dotSeed settings seed = .ok words)
    (hnumber : density.number = .ok d) (hzero : d.same (.whole 0) = true) (g : Grid)
    (c : CodePoint) :
    standard.call g (.dots settings density seed c) = .ok g := by
  rw [call_dots_of_inUnit hseed hnumber (Number.inUnit_of_same_zero hzero) g c]
  refine congrArg Except.ok (Grid.ext_cellAt rfl rfl fun row col hr hcol ↦ ?_)
  have hr : row < g.height := hr
  have hcol : col < g.width := hcol
  rw [Grid.paintChar, Grid.cellAt_mapCells g _ hr hcol,
    Pattern.dotMask_of_same_zero hzero words hr hcol, Bool.and_false, if_neg Bool.false_ne_true]

/-- **Dots by their density.** Let a seed stand for words, and a character not be the blank. Then
the cells painted with one density are among those painted with a greater one; density zero paints
none and density one all that are blank; and two grids of one size agree about all cells that are
blank in both of them, also if it is by other settings that their seeds stand for the same words. -/
theorem dots_by_density (hseed : dotSeed settings seed = .ok words) (hc : c ≠ Cell.blank)
    (g : Grid) :
    (∀ (lower upper : Value) (l u : Number), lower.number = .ok l → upper.number = .ok u →
      l.InUnit → u.InUnit → l.le u = true →
        ∃ g₁ g₂, standard.call g (.dots settings lower seed c) = .ok g₁ ∧
          standard.call g (.dots settings upper seed c) = .ok g₂ ∧
          g.changedCells g₁ ⊆ g.changedCells g₂) ∧
    (∀ (density : Value) (d : Number), density.number = .ok d → d.same (.whole 0) = true →
      standard.call g (.dots settings density seed c) = .ok g) ∧
    (∀ (density : Value) (d : Number), density.number = .ok d → d.same (.whole 1) = true →
      ∃ g', standard.call g (.dots settings density seed c) = .ok g' ∧
        g.changedCells g' = g.selectedCells fun _ _ ↦ true) ∧
    ∀ (h : Grid) (settings' : FillSettings) (seed' density : Value) (c' : CodePoint) (d : Number),
      h.width = g.width → h.height = g.height → dotSeed settings' seed' = .ok words →
      c' ≠ Cell.blank → density.number = .ok d → d.InUnit →
        ∃ g' h', standard.call g (.dots settings density seed c) = .ok g' ∧
          standard.call h (.dots settings' density seed' c') = .ok h' ∧
          ∀ row col, g.cellAt row col = Cell.blank → h.cellAt row col = Cell.blank →
            ((row, col) ∈ g.changedCells g' ↔ (row, col) ∈ h.changedCells h') := by
  refine ⟨?_, ?_, ?_, ?_⟩
  · intro lower upper l u hl hu hlunit huunit hle
    obtain ⟨g₁, hg₁, hcells₁⟩ := exists_call_dots hseed hc hl hlunit g
    obtain ⟨g₂, hg₂, hcells₂⟩ := exists_call_dots hseed hc hu huunit g
    refine ⟨g₁, g₂, hg₁, hg₂, ?_⟩
    rw [hcells₁, hcells₂]
    rintro ⟨row, col⟩ hcell
    obtain ⟨hplace, hblank, hmask⟩ := Grid.mem_selectedCells.1 hcell
    have hmask' := Pattern.dotMask_mono hlunit huunit hle hmask
    exact Grid.mem_selectedCells.2 ⟨hplace, hblank, hmask'⟩
  · intro density d hnumber hzero
    exact call_dots_of_same_zero hseed hnumber hzero g c
  · intro density d hnumber hone
    obtain ⟨g', hg', hcells⟩ :=
      exists_call_dots hseed hc hnumber (Number.inUnit_of_same_one hone) g
    refine ⟨g', hg', hcells.trans (Grid.selectedCells_congr fun row col hr hcol ↦ ?_)⟩
    exact Pattern.dotMask_of_same_one hone words hr hcol
  · intro h settings' seed' density c' d hwidth hheight hseed' hc' hnumber hunit
    obtain ⟨g', hg', hcells⟩ := exists_call_dots hseed hc hnumber hunit g
    obtain ⟨h', hh', hcells'⟩ := exists_call_dots hseed' hc' hnumber hunit h
    refine ⟨g', h', hg', hh', fun row col hblank hblank' ↦ ?_⟩
    -- what is drawn for the cell does not depend on the grid
    rw [hcells, hcells', Grid.mem_selectedCells, Grid.mem_selectedCells, hwidth, hheight, hblank,
      hblank']

/-- Settings with the seed five, which a seed of the call takes precedence over. -/
def seededFive : FillSettings :=
  ⟨{ Settings.standard.render with dotsSeed := some 5 }, []⟩

/-- The seed zero on a row with a drawn cell: dots of a quarter are among those of density one, and
where the row is blank they are the same as on a row without the drawn cell. -/
theorem seedZero_by_density :
    ∃ g h few all few' : Grid, Grid.ofText? "+    " = some g ∧ Grid.ofText? "     " = some h ∧
      Grid.ofText? "+ oo " = some few ∧
      standard.call g (.dots seededFive (.float 0.25) (.int 0) 'o') = .ok few ∧
      standard.call g (.dots seededFive (.bool true) (.int 0) 'o') = .ok all ∧
      g.changedCells few ⊆ g.changedCells all ∧
      g.changedCells all = (g.selectedCells fun _ _ ↦ true) ∧
      standard.call g (.dots seededFive (.float 0) (.int 0) 'o') = .ok g ∧
      standard.call h (.dots (.standardFrom []) (.float 0.25) (.int 0) 'x') = .ok few' ∧
      ((0, 2) ∈ g.changedCells few ↔ (0, 2) ∈ h.changedCells few') := by
  obtain ⟨g, hg⟩ := Option.isSome_iff_exists.1 (show (Grid.ofText? "+    ").isSome by decide)
  obtain ⟨h, hh⟩ := Option.isSome_iff_exists.1 (show (Grid.ofText? "     ").isSome by decide)
  have hsize : (Grid.ofText? "     ").map (fun h ↦ (h.width, h.height)) =
      (Grid.ofText? "+    ").map fun g ↦ (g.width, g.height) := by decide
  rw [hg, hh, Option.map_some, Option.map_some, Option.some.injEq, Prod.mk.injEq] at hsize
  have hblank : ((Grid.ofText? "+    ").map fun g ↦ g.cellAt 0 2) = some Cell.blank ∧
      ((Grid.ofText? "     ").map fun h ↦ h.cellAt 0 2) = some Cell.blank := by decide
  rw [hg, hh, Option.map_some, Option.map_some, Option.some.injEq, Option.some.injEq] at hblank
  have hseed (settings : FillSettings) : dotSeed settings (.int 0) = .ok (Scatter.wordsOf 0) := by
    rw [FillSpec.dotSeed_int]
    rfl
  have hquarter : (Number.real 0.25).InUnit := by
    constructor <;> decide +kernel
  have hone : (Number.flag true).InUnit := by
    constructor <;> decide +kernel
  obtain ⟨hmono, hnone, hall, hsame⟩ :=
    dots_by_density (hseed seededFive) (show (.char 'o') ≠ Cell.blank by decide) g
  obtain ⟨few, all, hfew, hevery, hsubset⟩ := hmono (.float 0.25) (.bool true) (.real 0.25)
    (.flag true) rfl rfl hquarter hone (by decide +kernel)
  obtain ⟨all', hall', hcells⟩ := hall (.bool true) (.flag true) rfl rfl
  obtain rfl := Except.ok.inj (hevery.symm.trans hall')
  obtain ⟨same, few', hfew', hdots, hagree⟩ := hsame h (.standardFrom []) (.int 0)
    (.float 0.25) 'x' (.real 0.25) hsize.1 hsize.2 (hseed _) (by decide) rfl hquarter
  obtain rfl := Except.ok.inj (hfew.symm.trans hfew')
  have hdrawn : ((Grid.ofText? "+    ").map fun g ↦
      (standard.call g (.dots seededFive (.float 0.25) (.int 0) 'o')).toOption) =
        some (Grid.ofText? "+ oo ") := by decide +kernel
  rw [hg, Option.map_some, hfew, Option.some.injEq] at hdrawn
  exact ⟨g, h, few, all, few', hg, hh, hdrawn.symm, hfew, hevery, hsubset, hcells,
    hnone (.float 0) (.real 0) rfl (by decide +kernel), hdots, hagree 0 2 hblank.1 hblank.2⟩

end FillRegistry

end TextArt
