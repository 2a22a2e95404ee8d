import Mathlib.Data.Nat.Sqrt
import TextArt.Composite
import TextArt.Proofs.Grid.Symmetry
import TextArt.Proofs.Grid.Trimming
import TextArt.Proofs.Wire.Shape

/-!
# Discs and their outlines

Only two distances of a cell matter to a circle, those from the middle row and from the middle
column (`away`), and not which is which. So a circle looks the same after every symmetry of the
square (`turned_draw`).

A row of the disc reaches equally far on both sides of the middle column (`reach`): the cells of a
row are one run, longer the closer the row is to the middle. The outline holds the cells whose
distances are the short sides of a right triangle with the radius as its long side, all of them
whole numbers. A row for which there is such a triangle has its outline at the ends of the row of
the disc (`outline_endsAt`). For all other rows the outline has a hole, and from radius two on there
are some (`rowDrawn_outline_iff`, `outline_closed_iff`).
-/

namespace TextArt

namespace Grid

/-! ## The ends of a row -/

/-- A cell is the first one of its row that is not blank, and another one the last. -/
structure EndsAt (g : Grid) (row left right : Nat) : Prop where
  /-- The first one is a cell of the grid. -/
  left_lt : left < g.width
  /-- The last one is. -/
  right_lt : right < g.width
  /-- The first one is drawn. -/
  left_drawn : g.cellAt row left ≠ Cell.blank
  /-- The last one is drawn. -/
  right_drawn : g.cellAt row right ≠ Cell.blank
  /-- All others lie between them. -/
  between : ∀ col < g.width, g.cellAt row col ≠ Cell.blank → left ≤ col ∧ col ≤ right

/-- Every row of both grids is drawn, and in both from the same cell to the same cell. -/
def SameEnds (g h : Grid) : Prop :=
  g.height = h.height ∧ ∀ row < g.height, ∃ left right, g.EndsAt row left right ∧
    h.EndsAt row left right

variable {g : Grid} {row left right : Nat}

theorem EndsAt.rowDrawn (h : g.EndsAt row left right) : g.rowDrawn row = true :=
  rowDrawn_iff.2 ⟨left, h.left_lt, h.left_drawn⟩

end Grid

namespace Circle

variable {radius row row' col col' : Nat} {filled : Bool} {c : Cell}

/-! ## Distances from the middle -/

/-- The distance of a row from the middle row, or of a column from the middle column. -/
def away (radius k : Nat) : Nat := ((k : Int) - radius).natAbs

theorem away_le (h : row < 2 * radius + 1) : away radius row ≤ radius := by
  unfold away
  omega

private theorem away_le_away (h : row ≤ row') (h' : row' ≤ radius) :
    away radius row' ≤ away radius row := by
  unfold away
  omega

private theorem away_countedFrom (flipped : Bool) (h : row < 2 * radius + 1) :
    away radius (countedFrom (2 * radius + 1) flipped row) = away radius row := by
  unfold away countedFrom
  split <;> omega

private theorem away_succ (radius k : Nat) : away (radius + 1) (k + 1) = away radius k := by
  unfold away
  omega

theorem natCast_away_sq (radius k : Nat) :
    ((away radius k : Nat) : Int) ^ 2 = ((k : Int) - radius) ^ 2 := Int.natAbs_sq _

theorem excess_eq (radius row col : Nat) :
    excess radius row col =
      (away radius row : Int) ^ 2 + (away radius col : Int) ^ 2 - radius ^ 2 := by
  rw [natCast_away_sq, natCast_away_sq, excess]
  ring

theorem covers_outline_iff :
    covers radius false row col = true ↔
      away radius row ^ 2 + away radius col ^ 2 = radius ^ 2 := by
  rw [covers, Bool.false_and, Bool.or_false, decide_eq_true_iff, excess_eq, sub_eq_zero]
  exact_mod_cast Iff.rfl

theorem covers_disc_iff :
    covers radius true row col = true ↔
      away radius row ^ 2 + away radius col ^ 2 ≤ radius ^ 2 := by
  rw [covers, Bool.true_and, Bool.or_eq_true, decide_eq_true_iff, decide_eq_true_iff,
    ← le_iff_eq_or_lt, excess_eq, sub_nonpos]
  exact_mod_cast Iff.rfl

private theorem covers_congr (hrow : away radius row = away radius row')
    (hcol : away radius col = away radius col') :
    covers radius filled row col = covers radius filled row' col' := by
  rw [covers, covers, excess_eq, excess_eq, hrow, hcol]

private theorem covers_comm (radius : Nat) (filled : Bool) (row col : Nat) :
    covers radius filled row col = covers radius filled col row := by
  rw [covers, covers, excess_eq, excess_eq, add_comm]

/-! ## How far a row reaches -/

/-- The number of cells of a row of the disc on either side of the middle column. -/
def reach (radius row : Nat) : Nat := Nat.sqrt (radius ^ 2 - away radius row ^ 2)

theorem le_reach_iff (h : row < 2 * radius + 1) (n : Nat) :
    n ≤ reach radius row ↔ away radius row ^ 2 + n ^ 2 ≤ radius ^ 2 := by
  have hsq : away radius row ^ 2 ≤ radius ^ 2 := Nat.pow_le_pow_left (away_le h) 2
  rw [reach, Nat.le_sqrt', Nat.le_sub_iff_add_le hsq, Nat.add_comm]

theorem reach_le (h : row < 2 * radius + 1) : reach radius row ≤ radius := by
  have hsum := (le_reach_iff h _).1 le_rfl
  exact (Nat.pow_le_pow_iff_left two_ne_zero).1 (Nat.le_of_add_left_le hsum)

private theorem reach_le_reach (h : row ≤ row') (h' : row' ≤ radius) :
    reach radius row ≤ reach radius row' :=
  Nat.sqrt_le_sqrt (Nat.sub_le_sub_left (Nat.pow_le_pow_left (away_le_away h h') 2) _)

private theorem reach_eq_of_triangle {n : Nat} (h : away radius row ^ 2 + n ^ 2 = radius ^ 2) :
    reach radius row = n := by
  rw [reach, ← h, Nat.add_sub_cancel_left, Nat.sqrt_eq']

private theorem covers_disc_iff_reach (h : row < 2 * radius + 1) :
    covers radius true row col = true ↔
      radius - reach radius row ≤ col ∧ col ≤ radius + reach radius row := by
  rw [covers_disc_iff, ← le_reach_iff h, away]
  omega

/-! ## Drawn cells -/

@[simp] theorem width_draw (radius : Nat) (filled : Bool) (c : Cell) :
    (draw radius filled c).width = 2 * radius + 1 := rfl

@[simp] theorem height_draw (radius : Nat) (filled : Bool) (c : Cell) :
    (draw radius filled c).height = 2 * radius + 1 := rfl

theorem cellAt_draw (filled : Bool) (c : Cell) (hrow : row < 2 * radius + 1)
    (hcol : col < 2 * radius + 1) :
    (draw radius filled c).cellAt row col =
      if covers radius filled row col then c else Cell.blank := by
  have hblank : (Grid.square radius).cellAt row col = Cell.blank := Grid.cellAt_build hrow hcol
  rw [draw, Grid.cellAt_mapCells _ _ hrow hcol, hblank]

theorem drawn_iff (hc : c ≠ Cell.blank) (hrow : row < 2 * radius + 1)
    (hcol : col < 2 * radius + 1) :
    (draw radius filled c).cellAt row col ≠ Cell.blank ↔ covers radius filled row col = true := by
  rw [cellAt_draw filled c hrow hcol]
  split <;> simp_all

/-- **Circles are symmetric.** -/
theorem turned_draw (radius : Nat) (filled : Bool) (c : Cell) (p : Symmetry) :
    (draw radius filled c).turned p = draw radius filled c := by
  refine Grid.ext_cellAt (by simp [Grid.width_turned]) (by simp [Grid.height_turned])
    fun i j hi hj ↦ ?_
  have hi' : i < 2 * radius + 1 := by simpa [Grid.height_turned] using hi
  have hj' : j < 2 * radius + 1 := by simpa [Grid.width_turned] using hj
  rw [Grid.cellAt_turned _ p hi hj, height_draw, width_draw, cellAt_draw filled c hi' hj']
  -- counting from the other end keeps the distances, and rows and columns may change places
  cases p.swaps with
  | false =>
    rw [if_neg Bool.false_ne_true, if_neg Bool.false_ne_true,
      cellAt_draw filled c (countedFrom_lt _ hi') (countedFrom_lt _ hj'),
      covers_congr (away_countedFrom _ hi') (away_countedFrom _ hj')]
  | true =>
    rw [if_pos rfl, if_pos rfl, cellAt_draw filled c (countedFrom_lt _ hj') (countedFrom_lt _ hi'),
      covers_congr (away_countedFrom _ hj') (away_countedFrom _ hi'), covers_comm]

private theorem apply_draw {t : Transform} (ht : ∀ size, t ≠ .scale size) :
    (draw radius filled c).apply t = draw radius filled c :=
  (Grid.apply_eq_turned _ ht).trans (turned_draw radius filled c t.symmetry)

/-! ## The rows of a disc -/

theorem disc_drawn_iff (hc : c ≠ Cell.blank) (hrow : row < 2 * radius + 1)
    (hcol : col < 2 * radius + 1) :
    (draw radius true c).cellAt row col ≠ Cell.blank ↔
      radius - reach radius row ≤ col ∧ col ≤ radius + reach radius row := by
  rw [drawn_iff hc hrow hcol, covers_disc_iff_reach hrow]

theorem disc_endsAt (hc : c ≠ Cell.blank) (hrow : row < 2 * radius + 1) :
    (draw radius true c).EndsAt row (radius - reach radius row) (radius + reach radius row) := by
  have hreach := reach_le hrow
  have hleft : radius - reach radius row < 2 * radius + 1 := by omega
  have hright : radius + reach radius row < 2 * radius + 1 := by omega
  exact ⟨hleft, hright, (disc_drawn_iff hc hrow hleft).2 (by omega),
    (disc_drawn_iff hc hrow hright).2 (by omega), fun col hcol ↦ (disc_drawn_iff hc hrow hcol).1⟩

private theorem disc_drawn_succ (hc : c ≠ Cell.blank) (hrow : row < 2 * radius + 1)
    (hcol : col < 2 * radius + 1) (h : (draw radius true c).cellAt row col ≠ Cell.blank) :
    (draw (radius + 1) true c).cellAt (row + 1) (col + 1) ≠ Cell.blank := by
  have hcovers := covers_disc_iff.1 ((drawn_iff hc hrow hcol).1 h)
  have hsq : radius ^ 2 ≤ (radius + 1) ^ 2 := Nat.pow_le_pow_left radius.le_succ 2
  rw [drawn_iff hc (by omega) (by omega), covers_disc_iff, away_succ, away_succ]
  exact hcovers.trans hsq

/-! ## The rows of an outline -/

theorem outline_drawn_iff (hc : c ≠ Cell.blank) (hrow : row < 2 * radius + 1)
    (hcol : col < 2 * radius + 1) :
    (draw radius false c).cellAt row col ≠ Cell.blank ↔
      away radius row ^ 2 + away radius col ^ 2 = radius ^ 2 := by
  rw [drawn_iff hc hrow hcol, covers_outline_iff]

theorem outline_endsAt (hc : c ≠ Cell.blank) (hrow : row < 2 * radius + 1) {n : Nat}
    (h : away radius row ^ 2 + n ^ 2 = radius ^ 2) :
    (draw radius false c).EndsAt row (radius - reach radius row) (radius + reach radius row) := by
  have hreach := reach_le hrow
  have hn := reach_eq_of_triangle h
  have hends := disc_endsAt hc hrow
  have haway : ∀ col, away radius col = reach radius row →
      away radius row ^ 2 + away radius col ^ 2 = radius ^ 2 := fun col hcol ↦ by rw [hcol, hn, h]
  refine ⟨hends.left_lt, hends.right_lt, ?_, ?_, fun col hcol hdrawn ↦ hends.between col hcol ?_⟩
  · exact (outline_drawn_iff hc hrow hends.left_lt).2 (haway _ (by unfold away; omega))
  · exact (outline_drawn_iff hc hrow hends.right_lt).2 (haway _ (by unfold away; omega))
  · -- the outline is part of the disc
    have heq := (outline_drawn_iff hc hrow hcol).1 hdrawn
    exact (drawn_iff hc hrow hcol).2 (covers_disc_iff.2 heq.le)

theorem rowDrawn_outline_iff (hc : c ≠ Cell.blank) (hrow : row < 2 * radius + 1) :
    (draw radius false c).rowDrawn row = true ↔
      ∃ n, away radius row ^ 2 + n ^ 2 = radius ^ 2 := by
  refine ⟨fun h ↦ ?_, fun ⟨n, h⟩ ↦ (outline_endsAt hc hrow h).rowDrawn⟩
  obtain ⟨col, hcol, hdrawn⟩ := Grid.rowDrawn_iff.1 h
  exact ⟨_, (outline_drawn_iff hc hrow hcol).1 hdrawn⟩

private theorem one_add_sq_ne {n : Nat} (h : 2 ≤ radius) : 1 + n ^ 2 ≠ radius ^ 2 := by
  intro heq
  -- the next square after that of `n` is too large unless `n` is zero
  have hlt : n < radius := lt_of_pow_lt_pow_left₀ 2 (Nat.zero_le _) (by omega)
  have hle : (n + 1) ^ 2 ≤ radius ^ 2 := Nat.pow_le_pow_left hlt 2
  have hexpand : (n + 1) ^ 2 = n ^ 2 + 2 * n + 1 := by ring
  obtain rfl : n = 0 := by omega
  have hfour : 2 ^ 2 ≤ radius ^ 2 := Nat.pow_le_pow_left h 2
  omega

private theorem outline_closed_iff (hc : c ≠ Cell.blank) :
    (∀ row < 2 * radius + 1, (draw radius false c).rowDrawn row = true) ↔ radius ≤ 1 := by
  constructor
  · -- the row above the middle one would need a triangle with a side of one cell
    intro h
    by_contra hradius
    obtain ⟨n, hn⟩ := (rowDrawn_outline_iff hc (by omega)).1 (h (radius - 1) (by omega))
    have haway : away radius (radius - 1) = 1 := by unfold away; omega
    rw [haway, one_pow] at hn
    exact one_add_sq_ne (by omega) hn
  · -- in the only rows there are, one of the two short sides is nothing
    intro hradius row hrow
    have haway := away_le hrow
    refine (rowDrawn_outline_iff hc hrow).2 ⟨radius - away radius row, ?_⟩
    interval_cases radius <;> interval_cases away _ row <;> rfl

/-! ## Requests -/

/-- The parameters of a circle. -/
def parameters (radius : Nat) (filled : Bool) (c : Cell) : Fields :=
  [("radius", .int radius), ("filled", .bool filled), ("char", .str (Text.singleton c))]

theorem requestCircle_parameters (radius : Nat) (filled : Bool) (c : Cell) :
    Shape.requestCircle (parameters radius filled c) = .ok (draw radius filled c) := by
  have haccept : (parameters radius filled c).accept ["radius"] ["filled", "char"] = .ok () := rfl
  have hchar : (parameters radius filled c).argument "char" Shape.defaultChar =
      .str (Text.singleton c) := rfl
  have hradius : (parameters radius filled c).argument "radius" .null = .int radius := rfl
  rw [Shape.requestCircle, haccept, ok_bind, hchar, Value.cell_singleton, ok_bind, hradius,
    Shape.squareRadius_natCast, ok_bind]
  rfl

/-! ## Main statements -/

/-- **The disc.** It holds the cells at most the radius away from the middle. So every row is one
run around the middle column, and no run is longer than one nearer to the middle row; no turn and no
reflection changes a disc or an outline; and a disc lies inside the next larger one if the middles
of both lie on each other. -/
theorem disc_shape (radius : Nat) (hc : c ≠ Cell.blank) :
    ∃ disc : Grid, Shape.requestCircle (parameters radius true c) = .ok disc ∧
      (disc.width = 2 * radius + 1 ∧ disc.height = 2 * radius + 1) ∧
      (∀ i j, i < 2 * radius + 1 → j < 2 * radius + 1 →
        (disc.cellAt i j ≠ Cell.blank ↔
          ((i : Int) - radius) ^ 2 + ((j : Int) - radius) ^ 2 ≤ (radius : Int) ^ 2)) ∧
      (∀ i < 2 * radius + 1, reach radius i ≤ radius ∧ ∀ j < 2 * radius + 1,
        (disc.cellAt i j ≠ Cell.blank ↔
          radius - reach radius i ≤ j ∧ j ≤ radius + reach radius i)) ∧
      (∀ i i', i ≤ i' → i' ≤ radius → reach radius i ≤ reach radius i') ∧
      (∀ filled, ∃ circle : Grid,
        Shape.requestCircle (parameters radius filled c) = .ok circle ∧
        (∀ turn, circle.rotate turn = circle) ∧ ∀ axis, circle.mirror axis = circle) ∧
      ∃ larger : Grid, Shape.requestCircle (parameters (radius + 1) true c) = .ok larger ∧
        (larger.width = 2 * radius + 3 ∧ larger.height = 2 * radius + 3) ∧
        Anchor.origin larger disc .center 0 0 = (1, 1) ∧
        ∀ i j, i < 2 * radius + 1 → j < 2 * radius + 1 → disc.cellAt i j ≠ Cell.blank →
          larger.cellAt (i + 1) (j + 1) ≠ Cell.blank := by
  refine ⟨_, requestCircle_parameters .., ⟨width_draw .., height_draw ..⟩, fun i j hi hj ↦ ?_,
    fun i hi ↦ ⟨reach_le hi, fun j hj ↦ disc_drawn_iff hc hi hj⟩,
    fun i i' h h' ↦ reach_le_reach h h',
    fun filled ↦ ⟨_, requestCircle_parameters .., fun turn ↦ ?_, fun axis ↦ ?_⟩,
    _, requestCircle_parameters .., ⟨width_draw .., height_draw ..⟩, ?_,
    fun i j hi hj ↦ disc_drawn_succ hc hi hj⟩
  · rw [drawn_iff hc hi hj, covers_disc_iff, ← natCast_away_sq, ← natCast_away_sq]
    exact_mod_cast Iff.rfl
  · exact apply_draw (t := .rotate turn) fun _ ↦ nofun
  · exact apply_draw (t := .mirror axis) fun _ ↦ nofun
  · simp only [Anchor.origin, Grid.center, width_draw, height_draw, Prod.mk.injEq]
    omega

/-- The disc of radius two has no corners, looks the same after a turn and lies inside the disc of
radius three. -/
theorem discOfTwo_shape :
    '#' ≠ Cell.blank ∧
    ∃ disc : Grid, Shape.requestCircle (parameters 2 true '#') = .ok disc ∧
      reach 2 0 ≤ reach 2 1 ∧
      (disc.cellAt 1 1 ≠ Cell.blank ∧ disc.cellAt 1 0 = Cell.blank) ∧
      disc.rotate .quarter = disc ∧
      ∃ larger : Grid, Shape.requestCircle (parameters 3 true '#') = .ok larger ∧
        larger.cellAt 2 2 ≠ Cell.blank := by
  have hc : '#' ≠ Cell.blank := by decide
  obtain ⟨disc, hdisc, -, hcells, -, hreach, hcircles, larger, hlarger, -, -, hinside⟩ :=
    disc_shape 2 hc
  have hdrawn : disc.cellAt 1 1 ≠ Cell.blank :=
    (hcells 1 1 (by decide) (by decide)).2 (by decide)
  obtain ⟨circle, hcircle, hturns, -⟩ := hcircles true
  obtain rfl := Except.ok.inj (hcircle.symm.trans hdisc)
  refine ⟨hc, circle, hdisc, hreach 0 1 (by decide) (by decide), ⟨hdrawn, ?_⟩, hturns .quarter,
    larger, hlarger, hinside 1 1 (by decide) (by decide) hdrawn⟩
  exact not_not.1 (mt (hcells 1 0 (by decide) (by decide)).1 (by decide))

/-- **Outlines and silhouettes.** A row of the outline that is drawn at all begins and ends where
that row of the disc does. It is drawn just if its distance from the middle row is a side of a right
triangle in whole numbers with the radius as its long side. So all rows are drawn, and the outline
is the silhouette of the disc, only up to radius one. -/
theorem outline_silhouette (radius : Nat) (hc : c ≠ Cell.blank) :
    ∃ outline disc : Grid,
      Shape.requestCircle (parameters radius false c) = .ok outline ∧
      Shape.requestCircle (parameters radius true c) = .ok disc ∧
      (outline.height = 2 * radius + 1 ∧ disc.height = 2 * radius + 1) ∧
      (∀ row < 2 * radius + 1, ∃ left right, disc.EndsAt row left right ∧
        (outline.rowDrawn row = true → outline.EndsAt row left right)) ∧
      (∀ row < 2 * radius + 1, (outline.rowDrawn row = true ↔
        ∃ n : Nat, ((row : Int) - radius) ^ 2 + (n : Int) ^ 2 = (radius : Int) ^ 2)) ∧
      ((∀ row < 2 * radius + 1, outline.rowDrawn row = true) ↔ radius ≤ 1) ∧
      (outline.SameEnds disc ↔ radius ≤ 1) := by
  have hends : ∀ row < 2 * radius + 1, ∃ left right, (draw radius true c).EndsAt row left right ∧
      ((draw radius false c).rowDrawn row = true →
        (draw radius false c).EndsAt row left right) := fun row hrow ↦
    ⟨_, _, disc_endsAt hc hrow, fun hdrawn ↦
      outline_endsAt hc hrow ((rowDrawn_outline_iff hc hrow).1 hdrawn).choose_spec⟩
  refine ⟨_, _, requestCircle_parameters .., requestCircle_parameters ..,
    ⟨height_draw .., height_draw ..⟩, hends, fun row hrow ↦ ?_, outline_closed_iff hc, ?_⟩
  · rw [rowDrawn_outline_iff hc hrow, ← natCast_away_sq]
    exact exists_congr fun n ↦ by exact_mod_cast Iff.rfl
  · rw [← outline_closed_iff hc]
    constructor
    · rintro ⟨-, hsame⟩ row hrow
      obtain ⟨left, right, houtline, -⟩ := hsame row hrow
      exact houtline.rowDrawn
    · refine fun hdrawn ↦ ⟨rfl, fun row hrow ↦ ?_⟩
      obtain ⟨left, right, hdisc, houtline⟩ := hends row hrow
      exact ⟨left, right, houtline (hdrawn row hrow), hdisc⟩

/-- With radius five, three, four and five make a triangle, so the row three above the middle one
has its outline. The row above has a hole. -/
theorem outlineOfFive_silhouette :
    '*' ≠ Cell.blank ∧
    ∃ outline disc : Grid,
      Shape.requestCircle (parameters 5 false '*') = .ok outline ∧
      Shape.requestCircle (parameters 5 true '*') = .ok disc ∧
      outline.rowDrawn 2 = true ∧
      (∃ left right, disc.EndsAt 2 left right ∧ outline.EndsAt 2 left right) ∧
      ¬outline.rowDrawn 3 = true ∧ ¬outline.SameEnds disc := by
  have hc : '*' ≠ Cell.blank := by decide
  obtain ⟨outline, disc, houtline, hdisc, -, hends, hdrawn, -, hsame⟩ := outline_silhouette 5 hc
  have hrow : outline.rowDrawn 2 = true := (hdrawn 2 (by decide)).2 ⟨4, by decide⟩
  obtain ⟨left, right, hdiscEnds, houtlineEnds⟩ := hends 2 (by decide)
  refine ⟨hc, outline, disc, houtline, hdisc, hrow, ⟨left, right, hdiscEnds, houtlineEnds hrow⟩,
    fun hdrawn3 ↦ ?_, fun h ↦ absurd (hsame.1 h) (by decide)⟩
  obtain ⟨n, hn⟩ := (hdrawn 3 (by decide)).1 hdrawn3
  have hsq : n ^ 2 = 21 := by
    have hsum : (4 : Int) + (n : Int) ^ 2 = 25 := hn
    have hint : (n : Int) ^ 2 = 21 := by linarith
    exact_mod_cast hint
  have hlt : n < 5 := lt_of_pow_lt_pow_left₀ 2 (by decide) (by omega)
  interval_cases n <;> omega

/-- The outline of radius two has a hole beside its middle row, where the disc has three cells. -/
theorem outlineOfTwo_not_sameEnds :
    ∃ outline disc : Grid,
      Shape.requestCircle (parameters 2 false '*') = .ok outline ∧
      Shape.requestCircle (parameters 2 true '*') = .ok disc ∧
      outline.rowDrawn 1 = false ∧ disc.EndsAt 1 1 3 ∧ ¬outline.SameEnds disc := by
  have hhole : (draw 2 false '*').rowDrawn 1 = false := by decide
  have hdisc : (draw 2 true '*').EndsAt 1 1 3 :=
    ⟨by decide, by decide, by decide, by decide, by decide⟩
  refine ⟨_, _, requestCircle_parameters .., requestCircle_parameters .., hhole, hdisc, ?_⟩
  rintro ⟨-, hsame⟩
  obtain ⟨left, right, houtline, -⟩ := hsame 1 (by decide)
  exact Bool.false_ne_true (hhole.symm.trans houtline.rowDrawn)

end Circle

end TextArt
