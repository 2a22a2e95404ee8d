import Mathlib.Algebra.Ring.Parity
import Mathlib.Data.List.Induction
import Mathlib.Data.List.Sort
import TextArt.Shape.Polygon

/-!
# Crossings of a closed outline

A filled polygon is filled in each row between its first and second crossing, its third and fourth,
and so on. That no crossing is left over needs the outline to be closed, and nothing else: vertices
may repeat, edges may be level or cross each other, and vertices may lie on the row.

A row divides the points into those at or above it and those below it. An edge crosses the row just
if its ends are on different sides. A walk along a closed outline comes back to the side on which it
began, so the outline goes down through the row as often as it goes up
(`countP_descends_eq_countP_ascends`). The crossings are then even in number, all of them are
paired, and what is filled follows the even-odd rule: a cell between paired crossings has an odd
number of them on its left (`cellAt_fill`).
-/

namespace TextArt.Polygon

variable {row col : Int} {outline : List Point}

/-! ## Edges and the sides of a row -/

/-- Whether an edge goes down through a row: from a point at or above it to a point below it. -/
def descends (row : Int) (edge : Point × Point) : Bool :=
  decide (edge.1.1 ≤ row ∧ row < edge.2.1)

/-- Whether an edge goes up through a row. -/
def ascends (row : Int) (edge : Point × Point) : Bool :=
  decide (row < edge.1.1 ∧ edge.2.1 ≤ row)

theorem crosses_eq_false_iff {edge : Point × Point} :
    crosses row edge = false ↔ (edge.1.1 ≤ row ↔ edge.2.1 ≤ row) := by
  rw [crosses, decide_eq_false_iff_not]
  omega

private theorem countP_crosses (row : Int) (l : List (Point × Point)) :
    l.countP (crosses row) = l.countP (descends row) + l.countP (ascends row) := by
  induction l with
  | nil => rfl
  | cons edge rest ih =>
    simp only [List.countP_cons, ih, crosses, descends, ascends, decide_eq_true_eq]
    split_ifs <;> omega

/-! ## Walks

A closed outline is a walk that ends where it starts. The induction is on the points between the two
ends, and it goes through only where these need not be the same. -/

/-- The edges of a walk from a first point through others to a last one. -/
def walk : Point → List Point → Point → List (Point × Point)
  | start, [], finish => [(start, finish)]
  | start, next :: rest, finish => (start, next) :: walk next rest finish

private theorem zip_eq_walk (start : Point) (rest : List Point) (finish : Point) :
    List.zip (start :: rest) (rest ++ [finish]) = walk start rest finish := by
  induction rest generalizing start with
  | nil => rfl
  | cons next rest ih => rw [List.cons_append, List.zip_cons_cons, ih, walk]

theorem edges_cons (first : Point) (rest : List Point) :
    edges (first :: rest) = walk first rest first := zip_eq_walk first rest first

private theorem countP_descends_walk (row : Int) (start : Point) (rest : List Point)
    (finish : Point) :
    (walk start rest finish).countP (descends row) + (if finish.1 ≤ row then 1 else 0) =
      (walk start rest finish).countP (ascends row) + (if start.1 ≤ row then 1 else 0) := by
  induction rest generalizing start with
  | nil =>
    simp only [walk, List.countP_singleton, descends, ascends, decide_eq_true_eq]
    split_ifs <;> omega
  | cons next rest ih =>
    have hnext := ih next
    simp only [walk, List.countP_cons, descends, ascends, decide_eq_true_eq] at hnext ⊢
    split_ifs at hnext ⊢ <;> omega

private theorem same_side_of_walk {start finish : Point} {rest : List Point}
    (h : ∀ edge ∈ walk start rest finish, crosses row edge = false) :
    ∀ v ∈ rest, (v.1 ≤ row ↔ start.1 ≤ row) := by
  induction rest generalizing start with
  | nil => exact fun v hv ↦ absurd hv List.not_mem_nil
  | cons next rest ih =>
    have hstep : start.1 ≤ row ↔ next.1 ≤ row :=
      crosses_eq_false_iff.1 (h (start, next) List.mem_cons_self)
    have hrest := ih fun edge hedge ↦ h edge (List.mem_cons_of_mem _ hedge)
    intro v hv
    rcases List.mem_cons.1 hv with rfl | hv
    · exact hstep.symm
    · exact (hrest v hv).trans hstep.symm

/-! ## Closed outlines -/

private theorem countP_descends_eq_countP_ascends (outline : List Point) (row : Int) :
    (edges outline).countP (descends row) = (edges outline).countP (ascends row) := by
  cases outline with
  | nil => rfl
  | cons first rest =>
    rw [edges_cons]
    exact Nat.add_right_cancel (countP_descends_walk row first rest first)

theorem even_countP_crosses (outline : List Point) (row : Int) :
    Even ((edges outline).countP (crosses row)) := by
  rw [countP_crosses, countP_descends_eq_countP_ascends]
  exact Even.add_self _

private theorem mem_of_mem_edges {edge : Point × Point} (h : edge ∈ edges outline) :
    edge.1 ∈ outline ∧ edge.2 ∈ outline := by
  obtain ⟨hstart, hfinish⟩ := List.of_mem_zip h
  refine ⟨hstart, ?_⟩
  rcases List.mem_append.1 hfinish with hfinish | hfinish
  · exact List.mem_of_mem_drop hfinish
  · exact List.mem_of_mem_take hfinish

private theorem forall_crosses_eq_false_iff :
    (∀ edge ∈ edges outline, crosses row edge = false) ↔
      (∀ v ∈ outline, row < v.1) ∨ ∀ v ∈ outline, v.1 ≤ row := by
  constructor
  · intro h
    cases outline with
    | nil => exact .inl fun v hv ↦ absurd hv List.not_mem_nil
    | cons first rest =>
      rw [edges_cons] at h
      have hside : ∀ v ∈ first :: rest, (v.1 ≤ row ↔ first.1 ≤ row) :=
        List.forall_mem_cons.2 ⟨Iff.rfl, same_side_of_walk h⟩
      by_cases hfirst : first.1 ≤ row
      · exact .inr fun v hv ↦ (hside v hv).2 hfirst
      · exact .inl fun v hv ↦ not_le.1 fun habove ↦ hfirst ((hside v hv).1 habove)
  · intro h edge hedge
    obtain ⟨hstart, hfinish⟩ := mem_of_mem_edges hedge
    rw [crosses_eq_false_iff]
    rcases h with hbelow | habove
    · exact iff_of_false (not_le.2 (hbelow _ hstart)) (not_le.2 (hbelow _ hfinish))
    · exact iff_of_true (habove _ hstart) (habove _ hfinish)

/-! ## The crossings of a row -/

theorem length_crossings (outline : List Point) (row : Int) :
    (crossings outline row).length = (edges outline).countP (crosses row) := by
  rw [crossings, List.length_mergeSort, List.length_map, List.countP_eq_length_filter]

private theorem pairwise_crossings (outline : List Point) (row : Int) :
    (crossings outline row).Pairwise (· ≤ ·) :=
  List.pairwise_mergeSort' (· ≤ ·) _

theorem even_length_crossings (outline : List Point) (row : Int) :
    Even (crossings outline row).length :=
  length_crossings outline row ▸ even_countP_crosses outline row

private theorem crossings_eq_nil_iff :
    crossings outline row = [] ↔ (∀ v ∈ outline, row < v.1) ∨ ∀ v ∈ outline, v.1 ≤ row := by
  rw [← forall_crosses_eq_false_iff, ← List.length_eq_zero_iff, length_crossings,
    List.countP_eq_zero]
  simp only [Bool.not_eq_true]

/-! ## Pairs -/

/-- The items of some pairs, in their order. -/
def items (ps : List (Int × Int)) : List Int := ps.flatMap fun p ↦ [p.1, p.2]

@[simp] theorem items_cons (p : Int × Int) (ps : List (Int × Int)) :
    items (p :: ps) = p.1 :: p.2 :: items ps := rfl

theorem items_pairs {l : List Int} (h : Even l.length) : items (pairs l) = l := by
  induction l using List.twoStepInduction with
  | nil => rfl
  | singleton a => exact absurd h Nat.not_even_one
  | cons_cons a b rest ih =>
    have hrest : Even rest.length := by simpa [Nat.even_add_one] using h
    rw [pairs, items_cons, ih hrest]

/-- The even-odd rule: a place is inside if it is one of some columns or has an odd number of them
on its left. -/
def Inside (cols : List Int) (col : Int) : Prop :=
  col ∈ cols ∨ Odd (cols.countP fun x ↦ x < col)

instance (cols : List Int) (col : Int) : Decidable (Inside cols col) :=
  inferInstanceAs (Decidable (_ ∨ _))

/-- Among ascending columns the even-odd rule finds the places in their pairs. A pair to the left of
the place adds two columns on that side, a pair around it adds one, and those to its right add
none. -/
theorem exists_mem_iff_inside {ps : List (Int × Int)} (h : (items ps).Pairwise (· ≤ ·)) :
    (∃ p ∈ ps, p.1 ≤ col ∧ col ≤ p.2) ↔ Inside (items ps) col := by
  unfold Inside
  induction ps with
  | nil => simp [items]
  | cons p rest ih =>
    obtain ⟨left, right⟩ := p
    simp only [items_cons, List.pairwise_cons] at h ⊢
    obtain ⟨hleft, hright, hrest⟩ := h
    have hle : left ≤ right := hleft right List.mem_cons_self
    rw [List.exists_mem_cons_iff, ih hrest, List.mem_cons, List.mem_cons, List.countP_cons,
      List.countP_cons]
    simp only [decide_eq_true_eq]
    rcases lt_or_ge col left with hbefore | hfrom
    · have hbefore' : col < right := hbefore.trans_le hle
      rw [if_neg hbefore'.not_gt, if_neg hbefore.not_gt]
      simp [hbefore.ne, hbefore'.ne, hbefore]
    rcases lt_or_ge right col with hafter | hto
    · have hafter' : left < col := hle.trans_lt hafter
      rw [if_pos hafter, if_pos hafter', add_assoc, Nat.odd_add]
      simp [hafter.ne', hafter'.ne', hafter]
    · refine iff_of_true (.inl ⟨hfrom, hto⟩) ?_
      rcases hfrom.eq_or_lt with rfl | hfrom'
      · exact .inl (.inl rfl)
      rcases hto.eq_or_lt with rfl | hto'
      · exact .inl (.inr (.inl rfl))
      -- Strictly between the two ends of its pair a place has the left one and no other before it,
      -- as nothing that follows the pair is less than its right end.
      have hnone : (items rest).countP (fun x ↦ x < col) = 0 := by
        rw [List.countP_eq_zero]
        intro x hx
        simpa using hto.trans (hright x hx)
      rw [hnone, if_pos hfrom', if_neg hto'.not_gt]
      exact .inr odd_one

/-! ## Filling -/

private theorem mem_spans_iff {width i j : Nat} :
    ((i : Int), (j : Int)) ∈ spans outline width row ↔
      (i : Int) = row ∧ j < width ∧
        ∃ p ∈ pairs (crossings outline row), p.1 ≤ (j : Int) ∧ (j : Int) ≤ p.2 := by
  simp only [spans, List.mem_flatMap, List.mem_filterMap, List.mem_range,
    Option.ite_none_right_eq_some, Option.some.injEq, Prod.mk.injEq]
  constructor
  · rintro ⟨p, hp, n, hn, hspan, hi, hj⟩
    obtain rfl := Int.natCast_inj.1 hj
    exact ⟨hi.symm, hn, p, hp, hspan⟩
  · rintro ⟨hi, hj, p, hp, hspan⟩
    exact ⟨p, hp, j, hj, hspan, hi.symm, rfl⟩

private theorem mem_spans_iff_inside {width i j : Nat} (hj : j < width) :
    ((i : Int), (j : Int)) ∈ spans outline width row ↔
      (i : Int) = row ∧ Inside (crossings outline row) j := by
  have hpairs := items_pairs (even_length_crossings outline row)
  have hsorted : (items (pairs (crossings outline row))).Pairwise (· ≤ ·) := by
    rw [hpairs]
    exact pairwise_crossings outline row
  rw [mem_spans_iff, exists_mem_iff_inside hsorted, hpairs, and_iff_right hj]

private theorem cellAt_fill (g : Grid) (outline : List Point) (c : Cell) {i j : Nat}
    (hi : i < g.height) (hj : j < g.width) :
    (fill g outline c).cellAt i j =
      if Inside (crossings outline i) j then c else g.cellAt i j := by
  rw [fill, Grid.cellAt_drawPoints g _ c hi hj]
  refine if_congr ?_ rfl rfl
  rw [List.mem_flatMap]
  constructor
  · rintro ⟨row, -, hmem⟩
    obtain ⟨hrow, hinside⟩ := (mem_spans_iff_inside hj).1 hmem
    exact hrow ▸ hinside
  · intro hinside
    exact ⟨i, List.mem_range.2 hi, (mem_spans_iff_inside hj).2 ⟨rfl, hinside⟩⟩

/-- **Crossings come in pairs.** The edges of a closed outline that cross a row are even in number,
and to take the crossings of the row two by two leaves none out. The rows without a crossing are
those above all vertices, and those that no vertex is below. What a fill draws in a row is what is
inside of its crossings by the even-odd rule, the crossings themselves included. -/
theorem crossings_paired (outline : List Point) (row : Int) :
    Even ((edges outline).countP (crosses row)) ∧
    (crossings outline row).length = (edges outline).countP (crosses row) ∧
    items (pairs (crossings outline row)) = crossings outline row ∧
    (crossings outline row = [] ↔ (∀ v ∈ outline, row < v.1) ∨ ∀ v ∈ outline, v.1 ≤ row) ∧
    ∀ (g : Grid) (c : Cell) (i j : Nat), (i : Int) = row → i < g.height → j < g.width →
      (fill g outline c).cellAt i j =
        if Inside (crossings outline row) j then c else g.cellAt i j := by
  refine ⟨even_countP_crosses outline row, length_crossings outline row,
    items_pairs (even_length_crossings outline row), crossings_eq_nil_iff, ?_⟩
  rintro g c i j rfl hi hj
  exact cellAt_fill g outline c hi hj

/-- An outline with three spikes, the tip of the middle one repeated, and a level base. -/
def crown : List Point := [(0, 0), (3, 2), (1, 4), (1, 4), (3, 6), (0, 8), (4, 8), (4, 0)]

/-- The tip of the middle spike is two crossings of its row, beside two at each of the other spikes.
The row of the base has none. -/
theorem crown_crossings_paired :
    crossings crown 1 = [0, 1, 4, 4, 7, 8] ∧
    Even ((edges crown).countP (crosses 1)) ∧
    items (pairs (crossings crown 1)) = crossings crown 1 ∧
    ((∀ v ∈ crown, v.1 ≤ 4) ∧ crossings crown 4 = []) ∧
    (fill (Grid.square 4) crown '#').cellAt 1 4 = '#' ∧
    (fill (Grid.square 4) crown '#').cellAt 1 5 = Cell.blank := by
  have hcrossings : crossings crown 1 = [0, 1, 4, 4, 7, 8] := by
    have hcols : ((edges crown).filter (crosses 1)).map (crossingCol 1) = [1, 4, 4, 7, 8, 0] := by
      decide +kernel
    rw [crossings, hcols]
    simp [List.mergeSort]
  have hbase : ∀ v ∈ crown, v.1 ≤ 4 := by decide
  obtain ⟨heven, -, hpairs, -, hfill⟩ := crossings_paired crown 1
  obtain ⟨-, -, -, hnone, -⟩ := crossings_paired crown 4
  refine ⟨hcrossings, heven, hpairs, ⟨hbase, hnone.2 (.inr hbase)⟩, ?_, ?_⟩
  · rw [hfill (Grid.square 4) '#' 1 4 rfl (by decide) (by decide), hcrossings]
    decide
  · rw [hfill (Grid.square 4) '#' 1 5 rfl (by decide) (by decide), hcrossings]
    decide

end TextArt.Polygon
