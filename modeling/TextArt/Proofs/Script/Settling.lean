import TextArt.Proofs.Binary64.Sum
import TextArt.Proofs.Number
import TextArt.Proofs.Script.Step
import TextArt.Proofs.Script.Writes

/-!
# Operations that settle

Nothing in `Work` takes back what has been written when a later step fails. That an operation leaves
nothing half done has to be seen from its steps: it *settles*, that is, it ends with the outcome of
its request, which is another grid or the old piece (`set_eq`, `paintBlanks_eq`, `drawLine_eq`,
`addShape_eq`, `fill_eq`). Most operations write once, after their last check. Three go on after a
write:

* A line is written point by point, and every point is rounded when its turn comes, which fails for
  an infinite coordinate. But a line that starts at doubles goes on at doubles: no sum along it
  leaves their range.
* A shape is stamped before its layer is logged. But the log asks only for what the stamp has read.
* The edges are written cell by cell, each time with a check of the character. But that check has
  the same result for all of them.
-/

namespace TextArt.Script

namespace Work

variable {α β : Type} {p q : Piece}

/-! ## Outcomes that leave nothing half done -/

/-- The end of some steps that have an outcome: the piece and the answer that it gives, or the old
piece. -/
def settle (p : Piece) (o : Outcome (Piece × α)) : EStateM.Result Trouble Piece α :=
  match o with
  | .ok (q, a) => .ok a q
  | .error cause => .error (.failed cause) p

/-- The outcome of steps that leave another grid behind. -/
def regrid (p : Piece) (o : Outcome Grid) : Outcome (Piece × Unit) :=
  o.map fun g ↦ (p.withGrid g, ())

theorem run_bind_of_ok {m : Work α} {a : α} (h : m.run p = .ok a q) (k : α → Work β) :
    (m >>= k).run p = (k a).run q := by
  change EStateM.bind m k p = _
  unfold EStateM.bind
  rw [show m p = .ok a q from h]
  rfl

theorem run_bind_of_error {m : Work α} {t : Trouble} (h : m.run p = .error t q)
    (k : α → Work β) : (m >>= k).run p = .error t q := by
  change EStateM.bind m k p = _
  unfold EStateM.bind
  rw [show m p = .error t q from h]

/-- An answer that follows on other steps. -/
theorem answer_eq {γ : Type} {m : Work α} {o : Outcome γ} {f : γ → Piece} {a : γ → α}
    (h : m.run p = settle p (o.map fun c ↦ (f c, a c))) (k : α → β) :
    (m >>= fun x ↦ pure (k x)).run p = settle p (o.map fun c ↦ (f c, k (a c))) := by
  cases o with
  | ok c => exact run_bind_of_ok h _
  | error cause => exact run_bind_of_error h _

theorem grid_bind (k : Grid → Work α) (p : Piece) : (grid >>= k).run p = (k p.grid).run p := rfl

theorem write_eq (f : Grid → Grid) (p : Piece) :
    (write f).run p = settle p (regrid p (.ok (f p.grid))) := rfl

theorem skip_eq (p : Piece) : (pure () : Work Unit).run p = settle p (regrid p (.ok p.grid)) := by
  rw [regrid, map_ok, withGrid_grid]
  rfl

theorem demand_bind_eq {o : Outcome α} {k : α → Work β} {f : α → Outcome (Piece × β)}
    (h : ∀ a, o = .ok a → (k a).run p = settle p (f a)) :
    (demand o >>= k).run p = settle p (o >>= f) := by
  cases o with
  | error cause => rfl
  | ok a => exact h a rfl

private theorem regrid_bind (p : Piece) (o : Outcome α) (f : α → Outcome Grid) :
    regrid p (o >>= f) = o >>= fun a ↦ regrid p (f a) := by
  cases o <;> rfl

theorem demand_bind_regrid {o : Outcome α} {k : α → Work Unit} {f : α → Outcome Grid}
    (h : ∀ a, o = .ok a → (k a).run p = settle p (regrid p (f a))) :
    (demand o >>= k).run p = settle p (regrid p (o >>= f)) := by
  rw [regrid_bind]
  exact demand_bind_eq h

/-! ## Cells and rows -/

theorem set_eq (row col char : Value) (p : Piece) :
    (set row col char).run p = settle p (regrid p (p.grid.requestSet row col char)) := by
  refine demand_bind_regrid fun cell _ ↦ ?_
  rw [grid_bind]
  refine demand_bind_regrid fun inside _ ↦ ?_
  cases inside with
  | false => exact skip_eq p
  | true => exact demand_bind_regrid fun place _ ↦ write_eq _ p

theorem setRow_eq (row char : Value) (p : Piece) :
    (setRow row char).run p = settle p (regrid p (p.grid.requestSetRow row char)) := by
  refine demand_bind_regrid fun cell _ ↦ ?_
  rw [grid_bind]
  refine demand_bind_regrid fun inside _ ↦ ?_
  cases inside with
  | false => exact skip_eq p
  | true => exact demand_bind_regrid fun place _ ↦ write_eq _ p

/-! ## Painting -/

theorem paintEach_eq (chosen : Nat → Nat → Bool) (ink : Nat → Nat → Text) (p : Piece) :
    (paintEach chosen ink).run p = settle p (regrid p (p.grid.paintEach chosen ink)) := by
  rw [paintEach, grid_bind, Grid.paintEach]
  cases p.grid.badInk? chosen ink with
  | some text => rfl
  | none => exact write_eq _ p

theorem paintInk_eq (chosen : Nat → Nat → Bool) (values : Value) (p : Piece) :
    (paintInk chosen values).run p = settle p (regrid p (p.grid.requestInk chosen values)) := by
  refine demand_bind_regrid fun ink _ ↦ ?_
  cases ink with
  | uniform text => exact demand_bind_regrid fun cell _ ↦ write_eq _ p
  | table texts =>
    dsimp only
    rw [grid_bind]
    split
    · exact paintEach_eq _ _ p
    · rfl

theorem paintBlanks_eq_requestInk {g : Grid} {mask : Option (Matrix Bool)}
    (h : (mask.map fun m ↦ m.stretches g).getD true = true) (values : Value) :
    (values.ink >>= fun ink ↦ g.paintBlanks ink mask) =
      (g.requestInk (chosenBy mask) values).map fun painted ↦
        (painted, g.selectedCount (chosenBy mask)) := by
  rw [Grid.requestInk, map_bind_eq]
  congr 1
  funext ink
  refine (if_pos h).trans ?_
  cases ink with
  | uniform text =>
    exact (map_bind_eq (Value.str text).cell (fun c ↦ .ok (g.paintChar (chosenBy mask) c))
      fun painted ↦ (painted, g.selectedCount (chosenBy mask))).symm
  | table texts =>
    dsimp only
    split
    · exact (map_eq_bind (g.paintEach (chosenBy mask) _) _).symm
    · rfl

theorem paintBlanks_eq (values mask : Value) (p : Piece) :
    (paintBlanks values mask).run p =
      settle p ((p.grid.requestPaint values mask).map fun r ↦ (p.withGrid r.1, r.2)) := by
  rw [paintBlanks, Grid.requestPaint, map_bind_eq]
  refine demand_bind_eq fun m _ ↦ ?_
  rw [grid_bind]
  by_cases hstretches : (m.map fun m ↦ m.stretches p.grid).getD true = true
  · rw [if_pos hstretches, if_pos hstretches, paintBlanks_eq_requestInk hstretches]
    refine (answer_eq (paintInk_eq _ values p) fun _ ↦ _).trans ?_
    cases p.grid.requestInk (chosenBy m) values <;> rfl
  · rw [if_neg hstretches, if_neg hstretches]
    rfl

/-! ## Points and lines -/

private theorem requestInBounds_int (g : Grid) (row col : Int) :
    g.requestInBounds (.int row) (.int col) = .ok (g.inBounds row col) := by
  have hrow : (Value.int row).number = .ok (.whole row) := rfl
  have hcol : (Value.int col).number = .ok (.whole col) := rfl
  rw [Grid.requestInBounds, hrow, ok_bind, hcol, ok_bind]
  simp only [Grid.within, Number.le_whole, Number.lt_whole, Grid.inBounds]
  by_cases hinside : 0 ≤ row ∧ row < g.height
  · simp [hinside]
  · have hout : ¬(0 ≤ row ∧ row < g.height ∧ 0 ≤ col ∧ col < g.width) := fun h ↦
      hinside ⟨h.1, h.2.1⟩
    rw [decide_eq_false hout, ← Bool.decide_and, if_neg (by simpa using hinside)]

theorem set_int {char : Value} {cell : Cell} (hchar : char.cell = .ok cell) (row col : Int)
    (p : Piece) :
    (set (.int row) (.int col) char).run p = .ok () (p.withGrid (p.grid.set row col cell)) := by
  have hset : p.grid.requestSet (.int row) (.int col) char = .ok (p.grid.set row col cell) := by
    rw [Grid.requestSet, hchar, ok_bind, requestInBounds_int, ok_bind, Grid.inBounds]
    by_cases hinside : 0 ≤ row ∧ row < p.grid.height ∧ 0 ≤ col ∧ col < p.grid.width
    · rw [decide_eq_true hinside]
      rfl
    · rw [decide_eq_false hinside, Grid.set, dif_neg hinside]
      rfl
  rw [set_eq, hset]
  rfl

theorem drawPoints_cons (g : Grid) (q : Point) (points : List Point) (c : Cell) :
    g.drawPoints (q :: points) c = (g.set q.1 q.2 c).drawPoints points c := rfl

private theorem setEach_of_cell {char : Value} {cell : Cell} (hchar : char.cell = .ok cell)
    (points : List Point) (p : Piece) :
    (setEach char points).run p = .ok () (p.withGrid (p.grid.drawPoints points cell)) := by
  induction points generalizing p with
  | nil => exact congrArg (EStateM.Result.ok ()) (withGrid_grid p).symm
  | cons q points ih =>
    rw [setEach, run_bind_of_ok (set_int hchar q.1 q.2 p), ih, grid_withGrid, withGrid_withGrid,
      drawPoints_cons]

private theorem roundHalfUp_of_isFinite {x : Float} (hx : Binary64.IsFinite x) :
    (Number.real x).roundHalfUp = .ok (roundHalfUp x) := by
  obtain ⟨e, he⟩ := hx.add ⟨_, Number.unpack?_half, by decide⟩
  have hreal : (Number.real x).toFloat? = some x := rfl
  rw [Number.roundHalfUp, hreal, roundHalfUp]
  dsimp only
  rw [he]

private theorem lineFrom_of_isSmall {char : Value} {cell : Cell} (hchar : char.cell = .ok cell)
    {rowStep colStep : Float} (hrowStep : Binary64.IsSmall rowStep)
    (hcolStep : Binary64.IsSmall colStep) (n : Nat) {row col : Float}
    (hrow : Binary64.IsFinite row) (hcol : Binary64.IsFinite col) (p : Piece) :
    (lineFrom char rowStep colStep n row col).run p = .ok () (p.withGrid (p.grid.drawPoints
      (((track row rowStep n).map roundHalfUp).zip ((track col colStep n).map roundHalfUp))
      cell)) := by
  induction n generalizing row col p with
  | zero => exact congrArg (EStateM.Result.ok ()) (withGrid_grid p).symm
  | succ n ih =>
    -- the next point starts at sums, which are finite again
    have hroundRow : (demand (Number.real row).roundHalfUp).run p = .ok (roundHalfUp row) p := by
      rw [roundHalfUp_of_isFinite hrow]
      rfl
    have hroundCol : (demand (Number.real col).roundHalfUp).run p = .ok (roundHalfUp col) p := by
      rw [roundHalfUp_of_isFinite hcol]
      rfl
    rw [lineFrom, run_bind_of_ok hroundRow, run_bind_of_ok hroundCol,
      run_bind_of_ok (set_int hchar _ _ p), ih (hrow.add hrowStep) (hcol.add hcolStep),
      grid_withGrid, withGrid_withGrid, track, track, List.map_cons, List.map_cons,
      List.zip_cons_cons, drawPoints_cons]

private theorem double_of_roundHalfUp {n : Number} {m : Int} (h : n.roundHalfUp = .ok m) :
    double m = .ok (floatOfInt m) ∧ Binary64.IsFinite (floatOfInt m) := by
  have hfloor : ∃ x, Binary64.ofInt? m = some x := by
    unfold Number.roundHalfUp at h
    split at h
    · cases h
    · split at h
      · next e he =>
        obtain rfl := Except.ok.inj h
        exact Binary64.ofInt?_floor he
      · cases h
  obtain ⟨x, hx⟩ := hfloor
  rw [double, hx]
  unfold Binary64.ofInt? at hx
  dsimp only at hx
  split at hx
  · next hsome =>
    obtain rfl := Option.some.inj hx
    exact ⟨rfl, Option.isSome_iff_exists.1 hsome⟩
  · cases hx

private theorem roundHalfUp_of_point {v : Value} {point : Point} (h : Grid.point v = .ok point) :
    (∃ n : Number, n.roundHalfUp = .ok point.1) ∧ ∃ n : Number, n.roundHalfUp = .ok point.2 := by
  obtain ⟨_, -, h⟩ := bind_eq_ok.1 h
  obtain ⟨n, -, h⟩ := bind_eq_ok.1 h
  obtain ⟨r, hr, h⟩ := bind_eq_ok.1 h
  obtain ⟨_, -, h⟩ := bind_eq_ok.1 h
  obtain ⟨m, -, h⟩ := bind_eq_ok.1 h
  obtain ⟨c, hc, h⟩ := bind_eq_ok.1 h
  obtain rfl := Except.ok.inj h
  exact ⟨⟨n, hr⟩, m, hc⟩

/-- **Lines.** A line that has found its character and its ends good is drawn to its end. -/
theorem drawLine_eq (start finish char : Value) (p : Piece) :
    (drawLine start finish char).run p =
      settle p (regrid p (p.grid.requestLine start finish char)) := by
  refine demand_bind_regrid fun cell hchar ↦ ?_
  refine demand_bind_regrid fun start hstart ↦ ?_
  refine demand_bind_regrid fun finish hfinish ↦ ?_
  dsimp only
  rw [Grid.drawLine, linePoints]
  dsimp only
  split
  · exact skip_eq p
  · next hsteps =>
    obtain ⟨⟨_, hrow⟩, _, hcol⟩ := roundHalfUp_of_point hstart
    obtain ⟨hrow, hrowFinite⟩ := double_of_roundHalfUp hrow
    obtain ⟨hcol, hcolFinite⟩ := double_of_roundHalfUp hcol
    rw [hrow, hcol]
    -- the longer side has one step for each of its cells, so no increment is above one
    have hpos := Nat.pos_of_ne_zero hsteps
    exact lineFrom_of_isSmall hchar
      (Binary64.isSmall_floatOfRatio hpos (Nat.le_max_left _ _))
      (Binary64.isSmall_floatOfRatio hpos (Nat.le_max_right _ _)) _ hrowFinite hcolFinite p

/-! ## Stamps and shapes -/

theorem overlay_eq {source : Work Grid} {s : Grid} (hsource : source.run p = .ok s p)
    (row col char transparent : Value) :
    (overlay source row col char transparent).run p =
      settle p (regrid p (p.grid.requestOverlay s row col char transparent)) := by
  refine demand_bind_regrid fun cell _ ↦ ?_
  refine demand_bind_regrid fun r _ ↦ ?_
  refine demand_bind_regrid fun c _ ↦ ?_
  rw [run_bind_of_ok hsource]
  have hmisses : (do
      let g ← grid
      if Grid.misses r s.height g.height || Grid.misses c s.width g.width then pure ()
      else throw (.failed .wrongType) : Work Unit).run p = settle p (regrid p
        (if Grid.misses r s.height p.grid.height || Grid.misses c s.width p.grid.width then
          .ok p.grid
        else .error .wrongType)) := by
    rw [grid_bind]
    split
    · exact skip_eq p
    · rfl
  -- only a place whose row and column are both whole is written to
  cases r.int? with
  | none => exact hmisses
  | some row =>
    cases c.int? with
    | none => exact hmisses
    | some col => exact write_eq _ p

private theorem reads_of_requestOverlay {t s g : Grid} {row col char transparent : Value}
    (h : t.requestOverlay s row col char transparent = .ok g) :
    (∃ cell, Grid.optionalCell char = .ok cell) ∧ (∃ r, row.number = .ok r) ∧
      ∃ c, col.number = .ok c := by
  obtain ⟨cell, hcell, h⟩ := bind_eq_ok.1 h
  obtain ⟨r, hr, h⟩ := bind_eq_ok.1 h
  obtain ⟨c, hc, -⟩ := bind_eq_ok.1 h
  exact ⟨⟨cell, hcell⟩, ⟨r, hr⟩, c, hc⟩

private theorem reads_of_requestOrigin {anchor : Anchor} {canvas shape : Grid}
    {offsetRow offsetCol : Value} {origin : Value × Value}
    (h : anchor.requestOrigin canvas shape offsetRow offsetCol = .ok origin) :
    (offsetRow = origin.1 ∨ ∃ n, offsetRow.number = .ok n) ∧
      (offsetCol = origin.2 ∨ ∃ n, offsetCol.number = .ok n) := by
  have hboth {rows cols : Outcome Value}
      (hrows : ∀ v, rows = .ok v → offsetRow = v ∨ ∃ n, offsetRow.number = .ok n)
      (hcols : ∀ v, cols = .ok v → offsetCol = v ∨ ∃ n, offsetCol.number = .ok n)
      (h : (do let row ← rows; let col ← cols; .ok (row, col)) = (.ok origin : Outcome _)) :
      (offsetRow = origin.1 ∨ ∃ n, offsetRow.number = .ok n) ∧
        (offsetCol = origin.2 ∨ ∃ n, offsetCol.number = .ok n) := by
    obtain ⟨row, hr, h⟩ := bind_eq_ok.1 h
    obtain ⟨col, hc, h⟩ := bind_eq_ok.1 h
    obtain rfl := Except.ok.inj h
    exact ⟨hrows row hr, hcols col hc⟩
  have hsame {v offset : Value} (hv : (.ok offset : Outcome Value) = .ok v) :
      offset = v ∨ ∃ n, offset.number = .ok n :=
    .inl (Except.ok.inj hv)
  have hread {v offset : Value} {f : Number → Value}
      (hv : (offset.number >>= fun m ↦ (.ok (f m) : Outcome Value)) = .ok v) :
      offset = v ∨ ∃ n, offset.number = .ok n := by
    obtain ⟨m, hm, -⟩ := bind_eq_ok.1 hv
    exact .inr ⟨m, hm⟩
  cases anchor with
  | center => exact hboth (fun _ ↦ hread) (fun _ ↦ hread) h
  | topLeft => exact hboth (fun _ ↦ hsame) (fun _ ↦ hsame) h
  | topRight => exact hboth (fun _ ↦ hsame) (fun _ ↦ hread) h
  | bottomLeft => exact hboth (fun _ ↦ hread) (fun _ ↦ hsame) h
  | bottomRight => exact hboth (fun _ ↦ hread) (fun _ ↦ hread) h

/-- **Shapes.** A shape that has been stamped is logged: what goes into the log has been read by
then. -/
theorem addShape_eq {c : Composite Nat} {shape : Work Grid} {s : Grid}
    (hshape : shape.run (.composite c) = .ok s (.composite c)) (mark : Nat)
    (anchor offsetRow offsetCol char : Value) :
    (addShape mark shape anchor offsetRow offsetCol char).run (.composite c) =
      settle (.composite c) ((c.requestShape mark s anchor offsetRow offsetCol char).map fun c ↦
        (.composite c, ())) := by
  rw [addShape, Composite.requestShape, map_bind_eq]
  refine demand_bind_eq fun place _ ↦ ?_
  rw [grid_bind, run_bind_of_ok hshape, map_bind_eq]
  refine demand_bind_eq fun (top, left) horigin ↦ ?_
  have hstamp := overlay_eq hshape top left char (.bool true)
  have hgrid : (Piece.composite c).grid = c.canvas := rfl
  rw [hgrid] at hstamp
  cases hcanvas : c.canvas.requestOverlay s top left char (.bool true) with
  | error cause =>
    rw [hcanvas] at hstamp
    dsimp only
    rw [run_bind_of_error hstamp, hcanvas]
    rfl
  | ok canvas =>
    rw [hcanvas] at hstamp
    obtain ⟨⟨cell, hcell⟩, ⟨row, hrow⟩, col, hcol⟩ := reads_of_requestOverlay hcanvas
    -- an offset that the anchor has not shifted was read as the place of the stamp
    obtain ⟨hdown, hacross⟩ := reads_of_requestOrigin horigin
    obtain ⟨down, hdown⟩ : ∃ n, offsetRow.number = .ok n :=
      hdown.elim (fun h ↦ ⟨row, h ▸ hrow⟩) id
    obtain ⟨across, hacross⟩ : ∃ n, offsetCol.number = .ok n :=
      hacross.elim (fun h ↦ ⟨col, h ▸ hcol⟩) id
    dsimp only
    rw [run_bind_of_ok hstamp, hcanvas, hcell, hdown, hacross, hrow, hcol]
    rfl

/-! ## Fills -/

private theorem paintDots_eq (settings : FillSettings) (density seed char : Value) (p : Piece) :
    (paintDots settings density seed char).run p =
      settle p (regrid p (Pattern.requestDots settings p.grid density seed char)) := by
  refine demand_bind_regrid fun limit _ ↦ ?_
  split
  · refine demand_bind_regrid fun words _ ↦ ?_
    rw [grid_bind]
    exact paintInk_eq _ char p
  · rfl

private theorem paintGradient_eq (settings : FillSettings) (ramp direction reverse : Value)
    (p : Piece) :
    (paintGradient settings ramp direction reverse).run p =
      settle p (regrid p (Pattern.requestGradient settings p.grid ramp direction reverse)) := by
  rw [paintGradient, Pattern.requestGradient]
  split
  · cases direction.text?.bind Pattern.Direction.ofName? with
    | none => rfl
    | some way =>
      refine demand_bind_regrid fun chars _ ↦ ?_
      rw [grid_bind]
      exact paintEach_eq _ _ p
  · rfl

private theorem paintCrosshatch_eq (forward back : Value) (p : Piece) :
    (paintCrosshatch forward back).run p =
      settle p (regrid p (Pattern.requestCrosshatch p.grid forward back)) := by
  rw [paintCrosshatch, Pattern.requestCrosshatch]
  obtain ⟨forward, back⟩ := Pattern.commonForm forward back
  dsimp only
  cases forward.scalarText? with
  | none => rfl
  | some forward =>
    cases back.scalarText? with
    | none => rfl
    | some back => exact paintEach_eq _ _ p

private theorem drawPoints_selected (g : Grid) (mask : Nat → Nat → Bool) (c : Cell) :
    g.drawPoints ((g.places.filter fun q ↦ g.selected mask q.1 q.2).map
      fun q ↦ ((q.1 : Int), (q.2 : Int))) c = g.paintChar mask c := by
  refine Grid.ext_cellAt (Grid.width_drawPoints _ _ _) (Grid.height_drawPoints _ _ _)
    fun i j hi hj ↦ ?_
  rw [Grid.height_drawPoints] at hi
  rw [Grid.width_drawPoints] at hj
  rw [Grid.cellAt_drawPoints g _ c hi hj, Grid.paintChar, Grid.cellAt_mapCells g _ hi hj]
  refine ite_congr (propext ?_) (fun _ ↦ rfl) fun _ ↦ rfl
  have hplace : (i, j) ∈ g.places :=
    List.mem_flatMap.2 ⟨i, List.mem_range.2 hi, List.mem_map.2 ⟨j, List.mem_range.2 hj, rfl⟩⟩
  constructor
  · intro h
    obtain ⟨⟨row, col⟩, hmem, heq⟩ := List.mem_map.1 h
    obtain ⟨hrow, hcol⟩ := Prod.mk.inj heq
    obtain rfl := Int.ofNat.inj hrow
    obtain rfl := Int.ofNat.inj hcol
    exact (List.mem_filter.1 hmem).2
  · intro h
    exact List.mem_map.2 ⟨(i, j), List.mem_filter.2 ⟨hplace, h⟩, rfl⟩

/-- The first character of the edges that is written is checked, and none is written if it is
bad. -/
theorem paintEdges_eq (char : Value) (p : Piece) :
    (paintEdges char).run p = settle p (regrid p (Pattern.requestEdges p.grid char)) := by
  rw [paintEdges, grid_bind, Pattern.requestEdges]
  by_cases hnone : p.grid.selectedCount (Pattern.edgeMask p.grid.height) = 0
  · rw [if_pos hnone, List.eq_nil_of_length_eq_zero hnone]
    exact skip_eq p
  · rw [if_neg hnone]
    cases hchar : char.cell with
    | ok cell =>
      rw [setEach_of_cell hchar, drawPoints_selected]
      rfl
    | error cause =>
      cases hplaces : (p.grid.places.filter fun q ↦
          p.grid.selected (Pattern.edgeMask p.grid.height) q.1 q.2) with
      | nil => exact absurd (congrArg List.length hplaces) hnone
      | cons q rest =>
        -- nothing has been written before the first of the cells
        refine run_bind_of_error ?_ _
        rw [set_eq, Grid.requestSet, hchar]
        rfl

private theorem paint_eq (settings : FillSettings) (params : Fields) (pattern : Pattern)
    (p : Piece) :
    (paint settings params pattern).run p =
      settle p (regrid p (pattern.paint settings p.grid params)) := by
  cases pattern with
  | solid => exact paintInk_eq _ _ p
  | dots => exact paintDots_eq _ _ _ _ p
  | gradient => exact paintGradient_eq _ _ _ _ p
  | diagonal => exact paintInk_eq _ _ p
  | crosshatch => exact paintCrosshatch_eq _ _ p
  | edges => exact paintEdges_eq _ p

private theorem apply_eq_choose (fills : FillRegistry) (settings : FillSettings) (name : Value)
    (g : Grid) (params : Fields) :
    fills.apply settings name g params =
      choose fills name params >>= fun chosen ↦ chosen.1.paint settings g chosen.2 := by
  unfold FillRegistry.apply choose
  split
  · rfl
  · cases fills.get name with
    | error cause => rfl
    | ok fill =>
      rw [ok_bind, ok_bind]
      dsimp only
      split
      · rfl
      · cases (FillRegistry.converted params).find? fun q ↦ !fill.pattern.takes q.1 <;> rfl

theorem fill_eq (context : Context) (name params : Value) (p : Piece) :
    (fill context name params).run p = settle p (regrid p (do
      let params ← params.arguments
      context.fills.apply (context.fillSettings 0) name p.grid params)) := by
  refine demand_bind_regrid fun params _ ↦ ?_
  rw [apply_eq_choose]
  exact demand_bind_regrid fun chosen _ ↦ paint_eq _ _ _ p

end Work

end TextArt.Script
