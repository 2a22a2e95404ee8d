import TextArt.Proofs.Grid.Stamping
import TextArt.Proofs.Number
import TextArt.Proofs.Outcome

/-!
# Regions cut out

The bounds of a region may be any whole numbers. They are clamped to the grid, and a region is left
if there is a row and a column between them (`Grid.HasRegion`); else the single blank cell is cut
out. What is cut out shows the region, counted from its first row and column (`cellAt_clip`).

Two things follow. A region of a region is a region (`clip_clip`), also where the single blank cell
stands in for an empty one. And cutting out and opaque stamping read and write the same cells, so
they are to each other as reading and writing a field: what was written is read
(`clip_overlay`), writing what was read changes nothing (`overlay_clip`), and of two things written
the second one stays (`overlay_overlay`).
-/

namespace TextArt.Grid

variable {g s t : Grid} {startRow endRow startCol endCol row col : Int}

/-! ## Clamped bounds -/

private theorem natCast_clamp {n : Int} {limit : Nat} (h : 0 ≤ n) (hle : n ≤ limit) :
    (clamp n limit : Int) = n := by
  unfold clamp
  omega

private theorem clamp_clamp (n : Int) (limit : Nat) :
    clamp (clamp n limit) limit = clamp n limit := by
  unfold clamp
  omega

theorem clamp_le (n : Int) (limit : Nat) : clamp n limit ≤ limit := by
  unfold clamp
  omega

section Within

variable {start stop limit : Nat}

/-- Bounds inside a range that lies within a limit leave something between them just if they do so
counted from the start of the range. -/
theorem clamp_lt_clamp_within (h : start ≤ stop) (hstop : stop ≤ limit) (e f : Int) :
    clamp (start + max e 0) limit < clamp (min (start + f) stop) limit ↔
      clamp e (stop - start) < clamp f (stop - start) := by
  unfold clamp
  omega

private theorem clamp_within (h : start ≤ stop) (hstop : stop ≤ limit) {e f : Int}
    (hlt : clamp e (stop - start) < clamp f (stop - start)) :
    clamp (start + max e 0) limit = start + clamp e (stop - start) ∧
      clamp (min (start + f) stop) limit = start + clamp f (stop - start) := by
  unfold clamp at hlt ⊢
  omega

private theorem not_clamp_lt_clamp_of_le (h : stop ≤ start) (e f : Int) :
    ¬clamp (start + max e 0) limit < clamp (min (start + f) stop) limit := by
  unfold clamp
  omega

end Within

/-! ## Regions -/

/-- The bounds, clamped to the grid, leave a row and a column between them. -/
def HasRegion (g : Grid) (startRow endRow startCol endCol : Int) : Prop :=
  clamp startRow g.height < clamp endRow g.height ∧ clamp startCol g.width < clamp endCol g.width

instance (g : Grid) (startRow endRow startCol endCol : Int) :
    Decidable (g.HasRegion startRow endRow startCol endCol) :=
  inferInstanceAs (Decidable (_ ∧ _))

theorem clip_of_not_hasRegion (h : ¬g.HasRegion startRow endRow startCol endCol) :
    g.clip startRow endRow startCol endCol = single := dif_neg h

theorem clip_of_hasRegion (h : g.HasRegion startRow endRow startCol endCol) :
    g.clip startRow endRow startCol endCol =
      build (clamp endCol g.width - clamp startCol g.width)
        (clamp endRow g.height - clamp startRow g.height) (Nat.sub_pos_of_lt h.2)
        (Nat.sub_pos_of_lt h.1) fun i j ↦
          g.cellAt (clamp startRow g.height + i) (clamp startCol g.width + j) := dif_pos h

theorem width_clip (h : g.HasRegion startRow endRow startCol endCol) :
    (g.clip startRow endRow startCol endCol).width =
      clamp endCol g.width - clamp startCol g.width := by
  rw [clip_of_hasRegion h, width_build]

theorem height_clip (h : g.HasRegion startRow endRow startCol endCol) :
    (g.clip startRow endRow startCol endCol).height =
      clamp endRow g.height - clamp startRow g.height := by
  rw [clip_of_hasRegion h, height_build]

theorem cellAt_clip (h : g.HasRegion startRow endRow startCol endCol) {i j : Nat}
    (hi : i < clamp endRow g.height - clamp startRow g.height)
    (hj : j < clamp endCol g.width - clamp startCol g.width) :
    (g.clip startRow endRow startCol endCol).cellAt i j =
      g.cellAt (clamp startRow g.height + i) (clamp startCol g.width + j) := by
  rw [clip_of_hasRegion h, cellAt_build hi hj]

private theorem clip_single (startRow endRow startCol endCol : Int) :
    single.clip startRow endRow startCol endCol = single := by
  by_cases h : single.HasRegion startRow endRow startCol endCol
  · -- the region is the whole of the single cell
    have hsize : single.height = 1 ∧ single.width = 1 := ⟨rfl, rfl⟩
    have hrow := clamp_le endRow single.height
    have hcol := clamp_le endCol single.width
    have hbounds := h
    unfold HasRegion at hbounds
    refine ext_cellAt (by rw [width_clip h]; omega) (by rw [height_clip h]; omega)
      fun i j hi hj ↦ ?_
    rw [height_clip h] at hi
    rw [width_clip h] at hj
    rw [cellAt_clip h hi hj]
    congr 1 <;> omega
  · exact clip_of_not_hasRegion h

/-- The bounds leave a region of a region just if they leave one of the grid, once they are moved
and may not pass the end of the region. -/
theorem hasRegion_clip (h : g.HasRegion startRow endRow startCol endCol) (e f p q : Int) :
    (g.clip startRow endRow startCol endCol).HasRegion e f p q ↔
      g.HasRegion (clamp startRow g.height + max e 0)
        (min (clamp startRow g.height + f) (clamp endRow g.height))
        (clamp startCol g.width + max p 0)
        (min (clamp startCol g.width + q) (clamp endCol g.width)) := by
  rw [HasRegion, HasRegion, height_clip h, width_clip h,
    clamp_lt_clamp_within h.1.le (clamp_le endRow g.height),
    clamp_lt_clamp_within h.2.le (clamp_le endCol g.width)]

private theorem not_hasRegion_within (h : ¬g.HasRegion startRow endRow startCol endCol)
    (e f p q : Int) :
    ¬g.HasRegion (clamp startRow g.height + max e 0)
      (min (clamp startRow g.height + f) (clamp endRow g.height))
      (clamp startCol g.width + max p 0)
      (min (clamp startCol g.width + q) (clamp endCol g.width)) := by
  rintro ⟨hrow, hcol⟩
  refine h ⟨?_, ?_⟩
  · exact Nat.lt_of_not_le fun hle ↦ not_clamp_lt_clamp_of_le hle e f hrow
  · exact Nat.lt_of_not_le fun hle ↦ not_clamp_lt_clamp_of_le hle p q hcol

private theorem clip_clip (g : Grid) (startRow endRow startCol endCol e f p q : Int) :
    (g.clip startRow endRow startCol endCol).clip e f p q =
      g.clip (clamp startRow g.height + max e 0)
        (min (clamp startRow g.height + f) (clamp endRow g.height))
        (clamp startCol g.width + max p 0)
        (min (clamp startCol g.width + q) (clamp endCol g.width)) := by
  by_cases h : g.HasRegion startRow endRow startCol endCol
  · by_cases hinner : (g.clip startRow endRow startCol endCol).HasRegion e f p q
    · have houter := (hasRegion_clip h e f p q).1 hinner
      have hbounds := hinner
      rw [HasRegion, height_clip h, width_clip h] at hbounds
      obtain ⟨hstartRow, hendRow⟩ := clamp_within h.1.le (clamp_le endRow g.height) hbounds.1
      obtain ⟨hstartCol, hendCol⟩ := clamp_within h.2.le (clamp_le endCol g.width) hbounds.2
      refine ext_cellAt ?_ ?_ fun i j hi hj ↦ ?_
      · rw [width_clip hinner, width_clip houter, width_clip h, hstartCol, hendCol,
          Nat.add_sub_add_left]
      · rw [height_clip hinner, height_clip houter, height_clip h, hstartRow, hendRow,
          Nat.add_sub_add_left]
      · rw [height_clip hinner] at hi
        rw [width_clip hinner] at hj
        rw [cellAt_clip hinner hi hj]
        rw [height_clip h] at hi ⊢
        rw [width_clip h] at hj ⊢
        -- the cell lies before the end of the inner region, so before that of the outer one
        have hrow := clamp_le f (clamp endRow g.height - clamp startRow g.height)
        have hcol := clamp_le q (clamp endCol g.width - clamp startCol g.width)
        rw [cellAt_clip h (by omega) (by omega), cellAt_clip houter (by omega) (by omega),
          hstartRow, hstartCol, Nat.add_assoc, Nat.add_assoc]
    · rw [clip_of_not_hasRegion hinner,
        clip_of_not_hasRegion (mt (hasRegion_clip h e f p q).2 hinner)]
  · -- an empty region has no region but the single blank cell that stands in for it
    rw [clip_of_not_hasRegion h, clip_single,
      clip_of_not_hasRegion (not_hasRegion_within h e f p q)]

/-! ## Regions and opaque stamps -/

theorem stamped_false (char : Option Cell) (old : Cell) (source : Option Cell) :
    stamped char false old source = source.elim old char.getD := by
  cases source <;> rfl

/-- What was stamped can be cut out again. -/
theorem clip_overlay (hrow : 0 ≤ row ∧ row + s.height ≤ t.height)
    (hcol : 0 ≤ col ∧ col + s.width ≤ t.width) :
    (t.overlay s row col none false).clip row (row + s.height) col (col + s.width) = s := by
  have hheight := s.height_pos
  have hwidth := s.width_pos
  have hstartRow : (clamp row t.height : Int) = row := natCast_clamp hrow.1 (by omega)
  have hendRow : (clamp (row + s.height) t.height : Int) = row + s.height :=
    natCast_clamp (by omega) hrow.2
  have hstartCol : (clamp col t.width : Int) = col := natCast_clamp hcol.1 (by omega)
  have hendCol : (clamp (col + s.width) t.width : Int) = col + s.width :=
    natCast_clamp (by omega) hcol.2
  have h : (t.overlay s row col none false).HasRegion row (row + s.height) col (col + s.width) := by
    rw [HasRegion, height_overlay, width_overlay]
    omega
  -- inside the target the clamped bounds are those of the stamp itself
  refine ext_cellAt ?_ ?_ fun i j hi hj ↦ ?_
  · rw [width_clip h, width_overlay]
    omega
  · rw [height_clip h, height_overlay]
    omega
  · rw [height_clip h] at hi
    rw [width_clip h] at hj
    rw [cellAt_clip h hi hj]
    rw [height_overlay] at hi ⊢
    rw [width_overlay] at hj ⊢
    have hi' : ((clamp row t.height + i : Nat) : Int) - row = i := by omega
    have hj' : ((clamp col t.width + j : Nat) : Int) - col = j := by omega
    rw [cellAt_overlay _ _ _ _ _ _ (by omega) (by omega), hi', hj',
      cell?_natCast s (by omega) (by omega)]
    rfl

private theorem overlay_clip (h : t.HasRegion startRow endRow startCol endCol) :
    t.overlay (t.clip startRow endRow startCol endCol) (clamp startRow t.height)
      (clamp startCol t.width) none false = t := by
  refine ext_cellAt (width_overlay _ _ _ _ _ _) (height_overlay _ _ _ _ _ _) fun i j hi hj ↦ ?_
  rw [height_overlay] at hi
  rw [width_overlay] at hj
  rw [cellAt_overlay _ _ _ _ _ _ hi hj, stamped_false]
  -- inside the region the stamp brings back the cell of the same place, outside it has none
  by_cases hinside : (clamp startRow t.height ≤ i ∧ i < clamp endRow t.height) ∧
      clamp startCol t.width ≤ j ∧ j < clamp endCol t.width
  · have hrow : (i : Int) - clamp startRow t.height = (i - clamp startRow t.height : Nat) := by
      omega
    have hcol : (j : Int) - clamp startCol t.width = (j - clamp startCol t.width : Nat) := by
      omega
    rw [hrow, hcol, cell?_natCast _ (by rw [height_clip h]; omega) (by rw [width_clip h]; omega),
      cellAt_clip h (by omega) (by omega), Nat.add_sub_cancel' hinside.1.1,
      Nat.add_sub_cancel' hinside.2.1]
    rfl
  · rw [cell?_of_outside _ (by rw [height_clip h, width_clip h]; omega)]
    rfl

private theorem overlay_overlay {first second : Grid} (hwidth : first.width = second.width)
    (hheight : first.height = second.height) (row col : Int) (char char' : Option Cell)
    (transparent : Bool) :
    (t.overlay first row col char transparent).overlay second row col char' false =
      t.overlay second row col char' false := by
  refine ext_cellAt (by simp) (by simp) fun i j hi hj ↦ ?_
  rw [height_overlay, height_overlay] at hi
  rw [width_overlay, width_overlay] at hj
  rw [cellAt_overlay _ _ _ _ _ _ (by simpa using hi) (by simpa using hj),
    cellAt_overlay _ _ _ _ _ _ hi hj, cellAt_overlay _ _ _ _ _ _ hi hj, stamped_false,
    stamped_false]
  -- both stamps cover the same cells, and the second one asks for nothing that was there
  by_cases hinside : 0 ≤ (i : Int) - row ∧ (i : Int) - row < second.height ∧
      0 ≤ (j : Int) - col ∧ (j : Int) - col < second.width
  · rw [cell?_of_inside second hinside, Option.elim_some, Option.elim_some]
  · rw [cell?_of_outside second hinside, cell?_of_outside first (by rwa [hwidth, hheight])]
    rfl

/-! ## Requests -/

private theorem clampNumber_whole (n : Int) (limit : Nat) :
    clampNumber (.whole n) limit = .whole (clamp n limit) := by
  have hmax : (Number.whole n).max (.whole 0) = .whole (max n 0) := by
    rw [Number.max, Number.lt_whole]
    simp only [decide_eq_true_eq]
    split <;> exact congrArg _ (by omega)
  rw [clampNumber, hmax, Number.min, Number.lt_whole, clamp]
  simp only [decide_eq_true_eq]
  split <;> exact congrArg _ (by omega)

theorem requestClip_int (g : Grid) (startRow endRow startCol endCol : Int) :
    g.requestClip (.int startRow) (.int endRow) (.int startCol) (.int endCol) =
      .ok (g.clip startRow endRow startCol endCol) := by
  have hnumber (n : Int) : (Value.int n).number = .ok (.whole n) := rfl
  have hclamped : g.clip (clamp startRow g.height) (clamp endRow g.height)
      (clamp startCol g.width) (clamp endCol g.width) =
      g.clip startRow endRow startCol endCol := by
    rw [clip, clip]
    simp only [clamp_clamp]
  -- a request clamps the bounds before the region is cut out, where they are clamped once more
  rw [requestClip]
  simp only [hnumber, ok_bind, clampNumber_whole, Number.le_whole]
  split
  · next hempty =>
    simp only [Bool.or_eq_true, decide_eq_true_eq] at hempty
    rw [clip_of_not_hasRegion]
    unfold HasRegion
    omega
  · exact congrArg _ hclamped

/-- **Regions of regions.** Whatever the bounds are, a region is cut out, and of that another one,
which is one region of the whole grid. A region that is left shows its own cells; in place of an
empty one there is the single blank cell, of which nothing but itself can be cut out. -/
theorem requestClip_requestClip (g : Grid) (startRow endRow startCol endCol e f p q : Int) :
    let top := clamp startRow g.height
    let bottom := clamp endRow g.height
    let left := clamp startCol g.width
    let right := clamp endCol g.width
    ∃ first second : Grid,
      g.requestClip (.int startRow) (.int endRow) (.int startCol) (.int endCol) = .ok first ∧
      first.requestClip (.int e) (.int f) (.int p) (.int q) = .ok second ∧
      g.requestClip (.int (top + max e 0)) (.int (min (top + f) bottom)) (.int (left + max p 0))
        (.int (min (left + q) right)) = .ok second ∧
      (top < bottom ∧ left < right →
        (first.height = bottom - top ∧ first.width = right - left) ∧
        ∀ i j, i < bottom - top → j < right - left →
          first.cellAt i j = g.cellAt (top + i) (left + j)) ∧
      (¬(top < bottom ∧ left < right) → first = single) := by
  intro top bottom left right
  refine ⟨g.clip startRow endRow startCol endCol,
    (g.clip startRow endRow startCol endCol).clip e f p q, requestClip_int .., requestClip_int ..,
    ?_, fun h ↦ ⟨⟨height_clip h, width_clip h⟩, fun i j hi hj ↦ cellAt_clip h hi hj⟩,
    fun h ↦ clip_of_not_hasRegion h⟩
  rw [requestClip_int, clip_clip]

/-- Two rows of two letters. -/
def fourLetters : Grid :=
  build 2 2 Nat.two_pos Nat.two_pos fun i j ↦ CodePoint.ofNat ('a'.toNat + 2 * i + j)

/-- Bounds far outside leave the column on the right, and of it the upper cell is cut out; inverted
bounds leave the single blank cell. -/
theorem fourLetters_requestClip :
    (∃ first second : Grid,
      fourLetters.requestClip (.int (-7)) (.int 99) (.int 1) (.int 8) = .ok first ∧
      (first.width = 1 ∧ first.cellAt 1 0 = 'd') ∧
      first.requestClip (.int (-2)) (.int 1) (.int (-3)) (.int 1) = .ok second ∧
      fourLetters.requestClip (.int 0) (.int 1) (.int 1) (.int 2) = .ok second) ∧
    ∃ first second : Grid,
      fourLetters.requestClip (.int 2) (.int 1) (.int 0) (.int 3) = .ok first ∧ first = single ∧
      first.requestClip (.int 0) (.int 1) (.int 0) (.int 1) = .ok second ∧
      fourLetters.requestClip (.int 2) (.int 1) (.int 0) (.int 1) = .ok second := by
  refine ⟨?_, ?_⟩
  · obtain ⟨first, second, hfirst, hsecond, hwhole, hregion, -⟩ :=
      requestClip_requestClip fourLetters (-7) 99 1 8 (-2) 1 (-3) 1
    obtain ⟨⟨-, hwidth⟩, hcells⟩ := hregion (by decide)
    exact ⟨first, second, hfirst,
      ⟨hwidth, (hcells 1 0 (by decide) (by decide)).trans (by decide)⟩, hsecond, hwhole⟩
  · obtain ⟨first, second, hfirst, hsecond, hwhole, -, hempty⟩ :=
      requestClip_requestClip fourLetters 2 1 0 3 0 1 0 1
    exact ⟨first, second, hfirst, hempty (by decide), hsecond, hwhole⟩

/-- **Cutting out and stamping.** On every grid they are to each other as reading and writing. A
stamp that lies inside can be cut out again; a region that is cut out may be stamped back opaquely
and changes nothing; and an opaque stamp hides an opaque stamp of its size at the same place, which
may be any. -/
theorem overlay_clip_lens (t : Grid) :
    (∀ (s : Grid) (row col : Int), 0 ≤ row ∧ row + s.height ≤ t.height →
      0 ≤ col ∧ col + s.width ≤ t.width → ∃ stamped : Grid,
        t.requestOverlay s (.int row) (.int col) .null (.bool false) = .ok stamped ∧
        stamped.requestClip (.int row) (.int (row + s.height)) (.int col)
          (.int (col + s.width)) = .ok s) ∧
    (∀ startRow endRow startCol endCol : Int, t.HasRegion startRow endRow startCol endCol →
      ∃ region : Grid,
        t.requestClip (.int startRow) (.int endRow) (.int startCol) (.int endCol) = .ok region ∧
        t.requestOverlay region (.int (clamp startRow t.height)) (.int (clamp startCol t.width))
          .null (.bool false) = .ok t) ∧
    ∀ (first second : Grid) (row col : Int), first.width = second.width →
      first.height = second.height → ∃ once twice : Grid,
        t.requestOverlay first (.int row) (.int col) .null (.bool false) = .ok once ∧
        once.requestOverlay second (.int row) (.int col) .null (.bool false) = .ok twice ∧
        t.requestOverlay second (.int row) (.int col) .null (.bool false) = .ok twice := by
  have hstamp (t s : Grid) (row col : Int) :
      t.requestOverlay s (.int row) (.int col) .null (.bool false) =
        .ok (t.overlay s row col none false) := requestOverlay_int t s row col none false
  refine ⟨fun s row col hrow hcol ↦ ?_, fun startRow endRow startCol endCol h ↦ ?_,
    fun first second row col hwidth hheight ↦ ?_⟩
  · refine ⟨_, hstamp t s row col, ?_⟩
    rw [requestClip_int, clip_overlay hrow hcol]
  · refine ⟨_, requestClip_int .., ?_⟩
    rw [hstamp, overlay_clip h]
  · refine ⟨_, _, hstamp .., hstamp .., ?_⟩
    rw [hstamp, overlay_overlay hwidth hheight]

/-- A row of two marks fits into the lower row, and the first column is cut out and stamped back. Of
two rows that stick out on the left only the second one is seen. -/
theorem fourLetters_lens :
    let pair := build 2 1 Nat.two_pos Nat.one_pos fun _ j ↦ if j = 0 then '<' else '>'
    let dots := build 2 1 Nat.two_pos Nat.one_pos fun _ _ ↦ '.'
    (((0 : Int) ≤ 1 ∧ (1 : Int) + pair.height ≤ fourLetters.height) ∧
      (0 : Int) ≤ 0 ∧ (0 : Int) + pair.width ≤ fourLetters.width) ∧
    fourLetters.HasRegion (-1) 9 (-1) 1 ∧ (dots.width = pair.width ∧ dots.height = pair.height) ∧
    (∃ stamped : Grid,
      fourLetters.requestOverlay pair (.int 1) (.int 0) .null (.bool false) = .ok stamped ∧
      stamped.requestClip (.int 1) (.int 2) (.int 0) (.int 2) = .ok pair) ∧
    (∃ region : Grid,
      fourLetters.requestClip (.int (-1)) (.int 9) (.int (-1)) (.int 1) = .ok region ∧
      fourLetters.requestOverlay region (.int 0) (.int 0) .null (.bool false) = .ok fourLetters) ∧
    ∃ once twice : Grid,
      fourLetters.requestOverlay dots (.int 0) (.int (-1)) .null (.bool false) = .ok once ∧
      once.requestOverlay pair (.int 0) (.int (-1)) .null (.bool false) = .ok twice ∧
      fourLetters.requestOverlay pair (.int 0) (.int (-1)) .null (.bool false) = .ok twice := by
  intro pair dots
  have hfits : ((0 : Int) ≤ 1 ∧ (1 : Int) + pair.height ≤ fourLetters.height) ∧
      (0 : Int) ≤ 0 ∧ (0 : Int) + pair.width ≤ fourLetters.width := by decide
  have hregion : fourLetters.HasRegion (-1) 9 (-1) 1 := by decide
  obtain ⟨hstamped, hback, htwice⟩ := overlay_clip_lens fourLetters
  exact ⟨hfits, hregion, ⟨rfl, rfl⟩, hstamped pair 1 0 hfits.1 hfits.2,
    hback (-1) 9 (-1) 1 hregion, htwice dots pair 0 (-1) rfl rfl⟩

end TextArt.Grid
