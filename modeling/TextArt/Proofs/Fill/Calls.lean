import TextArt.Proofs.Fill.Exhaustion

/-!
# What a call of a fill comes to

A fill is called by its name, with parameters that are converted and looked up on the way. With
parameters under the names that the fill itself uses, all of that falls away, and the call is the
pattern at work (`FillRegistry.call_of_parameters`). For characters as parameters the result can
be written down: `Grid.fillBlanks` is the grid with a character for each blank cell, and solid,
diagonal and crosshatched fills are instances of it.
-/

namespace TextArt

open FillSpec (charValue)

namespace Grid

variable {g : Grid} {ink ink' : Nat → Nat → Cell}

/-- The grid with a character for each of its blank cells; the blank leaves a cell as it is. -/
def fillBlanks (g : Grid) (ink : Nat → Nat → Cell) : Grid :=
  g.mapCells fun row col old ↦ if old = Cell.blank then ink row col else old

theorem cellAt_fillBlanks (g : Grid) (ink : Nat → Nat → Cell) {row col : Nat} (hr : row < g.height)
    (hc : col < g.width) : (g.fillBlanks ink).cellAt row col =
      if g.cellAt row col = Cell.blank then ink row col else g.cellAt row col :=
  cellAt_mapCells g _ hr hc

/-- The second of two fillings gets the cells that the first leaves blank. -/
theorem fillBlanks_fillBlanks (g : Grid) (ink ink' : Nat → Nat → Cell) :
    (g.fillBlanks ink).fillBlanks ink' = g.fillBlanks fun row col ↦
      if ink row col = Cell.blank then ink' row col else ink row col := by
  refine ext_cellAt rfl rfl fun row col hr hc ↦ ?_
  rw [cellAt_fillBlanks (g.fillBlanks ink) ink' hr hc, cellAt_fillBlanks g ink hr hc,
    cellAt_fillBlanks g _ hr hc]
  by_cases hblank : g.cellAt row col = Cell.blank
  · simp only [hblank, if_true]
  · simp only [hblank, if_false]

theorem paintChar_eq_fillBlanks (g : Grid) (mask : Nat → Nat → Bool) (c : Cell) :
    g.paintChar mask c = g.fillBlanks fun row col ↦ if mask row col then c else Cell.blank := by
  refine ext_cellAt rfl rfl fun row col hr hc ↦ ?_
  rw [paintChar, cellAt_mapCells g _ hr hc, cellAt_fillBlanks g _ hr hc]
  by_cases hblank : g.cellAt row col = Cell.blank <;> simp [hblank]

/-- Painting each cell with a character of its own, none of which is hidden. -/
theorem paintEach_singleton (g : Grid) (hink : ∀ row col, ink row col ≠ Cell.hidden) :
    g.paintEach (fun _ _ ↦ true) (fun row col ↦ Text.singleton (ink row col)) =
      .ok (g.fillBlanks ink) := by
  have hchar (row col : Nat) :
      singleChar? (withoutFinalNuls (Text.singleton (ink row col))) = some (ink row col) :=
    singleChar?_withoutFinalNuls (hink row col)
  have hbad : g.badInk? (fun _ _ ↦ true) (fun row col ↦ Text.singleton (ink row col)) = none :=
    badInk?_eq_none.2 fun row col _ _ _ ↦ ⟨_, hchar row col⟩
  rw [paintEach, hbad]
  simp only [hchar, Option.getD_some, Bool.and_true, beq_iff_eq]
  rfl

end Grid

/-! ## Calls with the names that fills use -/

namespace Pattern

/-- The names of parameters stay when they are converted, and do not get in the way of those of
applying itself. -/
theorem snakeCase_of_mem_parameters {p : Pattern} {name : Text} (h : name ∈ p.parameters) :
    FillRegistry.snakeCase name = name ∧ name ≠ "grid" ∧ name ≠ "name" := by
  have hall : ∀ name ∈ p.parameters,
      FillRegistry.snakeCase name = name ∧ name ≠ "grid" ∧ name ≠ "name" := by
    cases p <;> decide +kernel
  exact hall name h

theorem takes_of_mem_parameters {p : Pattern} {name : Text} (h : name ∈ p.parameters) :
    p.takes name = true := by
  unfold takes
  split
  · rfl
  · exact List.contains_iff_mem.2 h

end Pattern

namespace FillRegistry

variable {registry : FillRegistry}

private theorem converted_of_parameters {p : Pattern} {params : Fields}
    (hnames : ∀ q ∈ params, q.1 ∈ p.parameters) (honce : (params.map Prod.fst).Nodup) :
    converted params = params := by
  have hsame : params.map (fun q ↦ (snakeCase q.1, q.2)) = params := by
    refine (List.map_congr_left fun q hq ↦ ?_).trans (List.map_id params)
    rw [(Pattern.snakeCase_of_mem_parameters (hnames q hq)).1]
    rfl
  rw [converted, hsame, Fields.ofList_eq_self honce]

/-- Parameters under the names that the fill itself uses, each given once, are what its pattern
paints with. -/
theorem call_of_parameters (settings : FillSettings) {name : Text} (p : Pattern)
    (hname : (registry.find? name).map Fill.pattern = some p) {params : Fields}
    (hnames : ∀ q ∈ params, q.1 ∈ p.parameters) (honce : (params.map Prod.fst).Nodup) (g : Grid) :
    registry.call g ⟨settings, .str name, params⟩ = p.paint settings g params := by
  obtain ⟨fill, hfill, rfl⟩ := Option.map_eq_some_iff.1 hname
  have hconverted := converted_of_parameters hnames honce
  have hown : ∀ q ∈ params, q.1 ≠ "grid" ∧ q.1 ≠ "name" :=
    fun q hq ↦ (Pattern.snakeCase_of_mem_parameters (hnames q hq)).2
  have htaken : ∀ q ∈ converted params, q.1 ≠ "grid" ∧ fill.pattern.takes q.1 = true := by
    rw [hconverted]
    exact fun q hq ↦ ⟨(hown q hq).1, Pattern.takes_of_mem_parameters (hnames q hq)⟩
  rw [call, apply_of_taken settings hfill g hown htaken, hconverted]

end FillRegistry

/-! ## Calls with characters -/

namespace FillCall

variable (settings : FillSettings)

/-- A solid fill with a character. -/
def solid (c : CodePoint) : FillCall := ⟨settings, .str "solid", [("char", charValue c)]⟩

/-- A diagonal fill with a character. -/
def diagonal (c : CodePoint) : FillCall := ⟨settings, .str "diagonal", [("char", charValue c)]⟩

/-- A crosshatch of two characters. -/
def crosshatch (forward back : CodePoint) : FillCall :=
  ⟨settings, .str "crosshatch", [("forward", charValue forward), ("back", charValue back)]⟩

/-- A gradient along a ramp in a direction. -/
def gradient (ramp : Value) (direction : Text) (reverse : Value) : FillCall :=
  ⟨settings, .str "gradient",
    [("density_string", ramp), ("direction", .str direction), ("reverse", reverse)]⟩

/-- Dots of a density. -/
def dots (density seed : Value) (c : CodePoint) : FillCall :=
  ⟨settings, .str "dots", [("density", density), ("seed", seed), ("char", charValue c)]⟩

end FillCall

namespace FillRegistry

variable (settings : FillSettings) (g : Grid)

theorem call_solid (c : CodePoint) :
    standard.call g (.solid settings c) = .ok (g.fillBlanks fun _ _ ↦ c) := by
  have hpaint : standard.call g (.solid settings c) = g.requestInk (fun _ _ ↦ true) (charValue c) :=
    call_of_parameters settings .solid rfl (by simp [Pattern.parameters]) (by simp) g
  rw [hpaint, Grid.requestInk_charValue, Grid.paintChar_eq_fillBlanks]
  rfl

theorem call_diagonal (c : CodePoint) : standard.call g (.diagonal settings c) =
    .ok (g.fillBlanks fun row col ↦ if Pattern.oddCell row col then c else Cell.blank) := by
  have hpaint : standard.call g (.diagonal settings c) =
      g.requestInk Pattern.oddCell (charValue c) :=
    call_of_parameters settings .diagonal rfl (by simp [Pattern.parameters]) (by simp) g
  rw [hpaint, Grid.requestInk_charValue, Grid.paintChar_eq_fillBlanks]

theorem call_crosshatch {forward back : CodePoint} (hforward : forward ≠ Cell.hidden)
    (hback : back ≠ Cell.hidden) : standard.call g (.crosshatch settings forward back) =
      .ok (g.fillBlanks fun row col ↦ if Pattern.oddCell row col then forward else back) := by
  have hpaint : standard.call g (.crosshatch settings forward back) =
      Pattern.requestCrosshatch g (charValue forward) (charValue back) :=
    call_of_parameters settings .crosshatch rfl (by simp [Pattern.parameters]) (by simp) g
  rw [hpaint, Pattern.requestCrosshatch_charValue]
  refine g.paintEach_singleton fun row col ↦ ?_
  split
  · exact hforward
  · exact hback

theorem call_gradient (ramp : Value) (direction : Text) (reverse : Value) :
    standard.call g (.gradient settings ramp direction reverse) =
      Pattern.requestGradient settings g ramp (.str direction) reverse :=
  call_of_parameters settings .gradient rfl (by simp [Pattern.parameters]) (by simp) g

theorem call_dots (density seed : Value) (c : CodePoint) :
    standard.call g (.dots settings density seed c) =
      Pattern.requestDots settings g density seed (charValue c) :=
  call_of_parameters settings .dots rfl (by simp [Pattern.parameters]) (by simp) g

end FillRegistry

end TextArt
