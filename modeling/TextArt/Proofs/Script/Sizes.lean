import TextArt.Proofs.Fill.Repaint
import TextArt.Proofs.Script.Step

/-!
# Sizes stay

A piece keeps its size as long as the workspace lasts. Most actions answer or make a piece of their
own; those that write on a grid change its cells only (`size_of_write?`, `size_of_combine?`). So the
number of a piece always leads to a grid of the same width and height (`size_step`, `size_after`).
-/

namespace TextArt

/-- Two grids are of the same size. -/
structure Grid.SameSize (g g' : Grid) : Prop where
  /-- They are equally wide. -/
  width : g'.width = g.width
  /-- They are equally high. -/
  height : g'.height = g.height

theorem Grid.SameSize.refl (g : Grid) : g.SameSize g := ⟨rfl, rfl⟩

private theorem Grid.SameSize.trans {g₁ g₂ g₃ : Grid} (h : g₁.SameSize g₂) (h' : g₂.SameSize g₃) :
    g₁.SameSize g₃ :=
  ⟨h'.width.trans h.width, h'.height.trans h.height⟩

private theorem Grid.Repaints.sameSize {g g' : Grid} (h : g.Repaints g') : g.SameSize g' :=
  ⟨h.width, h.height⟩

namespace Script

variable {context : Context} {w : Workspace} {c : Command} {g g' : Grid} {p : Piece}
  {action : String} {arguments : Fields}

/-! ## Writing on grids -/

theorem size_setPlace (g : Grid) (c : Cell) (place : Grid.Place) :
    g.SameSize (g.setPlace c place) := by
  cases place with
  | cell row col => exact ⟨Grid.width_set _ _ _ _, Grid.height_set _ _ _ _⟩
  | row row =>
    rw [Grid.setPlace, Grid.setRow]
    split
    · exact ⟨rfl, rfl⟩
    · exact .refl g
  | all => exact ⟨rfl, rfl⟩
  | none => exact .refl g

private theorem size_of_requestSet {row col char : Value} (h : g.requestSet row col char = .ok g') :
    g.SameSize g' := by
  obtain ⟨cell, -, h⟩ := bind_eq_ok.1 h
  obtain ⟨inside, -, h⟩ := bind_eq_ok.1 h
  split at h
  · obtain ⟨place, -, h⟩ := bind_eq_ok.1 h
    obtain rfl := Except.ok.inj h
    exact size_setPlace g cell place
  · obtain rfl := Except.ok.inj h
    exact .refl g

private theorem size_of_requestSetRow {row char : Value} (h : g.requestSetRow row char = .ok g') :
    g.SameSize g' := by
  obtain ⟨cell, -, h⟩ := bind_eq_ok.1 h
  obtain ⟨inside, -, h⟩ := bind_eq_ok.1 h
  split at h
  · obtain ⟨place, -, h⟩ := bind_eq_ok.1 h
    obtain rfl := Except.ok.inj h
    exact size_setPlace g cell place
  · obtain rfl := Except.ok.inj h
    exact .refl g

private theorem size_of_requestLine {start finish char : Value}
    (h : g.requestLine start finish char = .ok g') : g.SameSize g' := by
  obtain ⟨cell, -, h⟩ := bind_eq_ok.1 h
  obtain ⟨s, -, h⟩ := bind_eq_ok.1 h
  obtain ⟨f, -, h⟩ := bind_eq_ok.1 h
  obtain rfl := Except.ok.inj h
  exact ⟨Grid.width_drawPoints _ _ _, Grid.height_drawPoints _ _ _⟩

theorem size_of_requestOverlay {source : Grid} {row col char transparent : Value}
    (h : g.requestOverlay source row col char transparent = .ok g') : g.SameSize g' := by
  obtain ⟨cell, -, h⟩ := bind_eq_ok.1 h
  obtain ⟨r, -, h⟩ := bind_eq_ok.1 h
  obtain ⟨k, -, h⟩ := bind_eq_ok.1 h
  split at h
  · obtain rfl := Except.ok.inj h
    exact ⟨Grid.width_overlay .., Grid.height_overlay ..⟩
  · split at h
    · obtain rfl := Except.ok.inj h
      exact .refl g
    · cases h

private theorem size_of_requestShape {canvas canvas' : Composite Nat} {mark : Nat} {shape : Grid}
    {anchor offsetRow offsetCol char : Value}
    (h : canvas.requestShape mark shape anchor offsetRow offsetCol char = .ok canvas') :
    canvas.canvas.SameSize canvas'.canvas := by
  obtain ⟨place, -, h⟩ := bind_eq_ok.1 h
  obtain ⟨⟨row, col⟩, -, h⟩ := bind_eq_ok.1 h
  obtain ⟨painted, hpainted, h⟩ := bind_eq_ok.1 h
  obtain ⟨_, -, h⟩ := bind_eq_ok.1 h
  obtain ⟨_, -, h⟩ := bind_eq_ok.1 h
  obtain ⟨_, -, h⟩ := bind_eq_ok.1 h
  obtain ⟨_, -, h⟩ := bind_eq_ok.1 h
  obtain ⟨_, -, h⟩ := bind_eq_ok.1 h
  obtain rfl := Except.ok.inj h
  exact size_of_requestOverlay hpainted

private theorem size_of_write? {r : Result}
    (h : write? context g action arguments = some (.ok (g', r))) : g.SameSize g' := by
  unfold write? at h
  extract_lets silent at h
  have hsilent {o : Outcome Grid} (ho : silent o = some (.ok (g', r))) : o = .ok g' := by
    obtain ⟨made, hmade, heq⟩ := map_eq_ok.1 (Option.some.inj ho)
    obtain ⟨rfl, -⟩ := Prod.mk.inj heq
    exact hmade
  split at h
  · -- set
    obtain ⟨_, -, h⟩ := bind_eq_ok.1 (hsilent h)
    exact size_of_requestSet h
  · -- set_row
    obtain ⟨_, -, h⟩ := bind_eq_ok.1 (hsilent h)
    exact size_of_requestSetRow h
  · -- draw_line
    obtain ⟨_, -, h⟩ := bind_eq_ok.1 (hsilent h)
    exact size_of_requestLine h
  · -- paint_blanks
    obtain ⟨_, -, h⟩ := bind_eq_ok.1 (Option.some.inj h)
    obtain ⟨painted, hpainted, h⟩ := bind_eq_ok.1 h
    obtain ⟨rfl, -⟩ := Prod.mk.inj (Except.ok.inj h)
    exact (Grid.repaints_of_requestPaint hpainted).sameSize
  · -- fill
    obtain ⟨_, -, h⟩ := bind_eq_ok.1 (Option.some.inj h)
    obtain ⟨params, -, h⟩ := bind_eq_ok.1 h
    obtain ⟨painted, hpainted, h⟩ := bind_eq_ok.1 h
    obtain ⟨rfl, -⟩ := Prod.mk.inj (Except.ok.inj h)
    exact (FillRegistry.repaints_of_apply hpainted).sameSize
  · cases h

/-! ## Commands on a piece -/

/-- What a command may do with its piece: it only answers, or it makes another piece, or it changes
the cells of its piece, or it begins to show it. -/
inductive Effect.Keeps (action : String) (p : Piece) : Effect → Prop where
  /-- The piece is left alone. -/
  | answer (r : Result) : Keeps action p (.answer r)
  /-- The new piece is another one. -/
  | make (made : Piece) : Keeps action p (.make made)
  /-- The size of the piece stays. -/
  | change (changed : Piece) (r : Result) (hsize : p.grid.SameSize changed.grid) :
      Keeps action p (.change changed r)
  /-- Only one action begins to show a piece. -/
  | start (haction : action = "stream_open") : Keeps action p .start

private theorem keeps_of_combine? {effect : Effect}
    (h : combine? w p action arguments = some (.ok effect)) : effect.Keeps action p := by
  unfold combine? at h
  extract_lets joined stamped at h
  have hjoined {join : Grid → Grid → Outcome Grid} (h : joined join = some (.ok effect)) :
      effect.Keeps action p := by
    obtain ⟨_, -, h⟩ := bind_eq_ok.1 (Option.some.inj h)
    obtain ⟨made, -, h⟩ := bind_eq_ok.1 h
    obtain rfl := Except.ok.inj h
    exact .make _
  have hstamped (h : stamped = some (.ok effect)) : effect.Keeps action p := by
    obtain ⟨⟨j, source⟩, -, h⟩ := bind_eq_ok.1 (Option.some.inj h)
    obtain ⟨painted, hpainted, h⟩ := bind_eq_ok.1 h
    obtain ⟨_, -, hpainted⟩ := bind_eq_ok.1 (lift_eq_ok.1 hpainted)
    obtain rfl := Except.ok.inj h
    refine .change _ _ ?_
    rw [grid_withGrid]
    exact size_of_requestOverlay hpainted
  split at h
  · exact hjoined h
  · exact hjoined h
  · exact hjoined h
  · exact hstamped h
  · exact hstamped h
  · -- eq
    obtain ⟨_, -, h⟩ := bind_eq_ok.1 (Option.some.inj h)
    obtain ⟨_, -, h⟩ := bind_eq_ok.1 h
    obtain rfl := Except.ok.inj h
    exact .answer _
  · -- anchor_origin
    cases p with
    | plain _ => cases Option.some.inj h
    | composite canvas =>
      obtain ⟨_, -, h⟩ := bind_eq_ok.1 (Option.some.inj h)
      obtain ⟨_, -, h⟩ := bind_eq_ok.1 h
      obtain rfl := Except.ok.inj h
      exact .answer _
  · -- add_shape
    cases p with
    | plain _ => cases Option.some.inj h
    | composite canvas =>
      obtain ⟨⟨j, shape⟩, -, h⟩ := bind_eq_ok.1 (Option.some.inj h)
      obtain ⟨placed, hplaced, h⟩ := bind_eq_ok.1 h
      obtain ⟨_, -, hplaced⟩ := bind_eq_ok.1 (lift_eq_ok.1 hplaced)
      obtain rfl := Except.ok.inj h
      exact .change _ _ (size_of_requestShape hplaced)
  · -- layers
    cases p with
    | plain _ => cases Option.some.inj h
    | composite canvas =>
      obtain rfl := Except.ok.inj (Option.some.inj h)
      exact .answer _
  · -- repr
    obtain rfl := Except.ok.inj (Option.some.inj h)
    exact .answer _
  · -- stream_open
    obtain rfl := Except.ok.inj (Option.some.inj h)
    exact .start rfl
  · cases h

theorem keeps_of_perform {effect : Effect}
    (h : perform context w p action arguments = .ok effect) : effect.Keeps action p := by
  unfold perform at h
  split at h
  · obtain ⟨r, -, rfl⟩ := map_eq_ok.1 h
    exact .answer r
  · split at h
    · obtain ⟨made, -, rfl⟩ := map_eq_ok.1 h
      exact .make _
    · split at h
      · next o hwrite =>
        obtain ⟨⟨painted, r⟩, hpainted, rfl⟩ := map_lift_eq_ok.1 h
        refine .change _ r ?_
        rw [grid_withGrid]
        exact size_of_write? (hwrite.trans (congrArg some hpainted))
      · cases hcombine : combine? w p action arguments with
        | none =>
          rw [hcombine] at h
          cases h
        | some o =>
          rw [hcombine] at h
          exact keeps_of_combine? (hcombine.trans (congrArg some h))

/-! ## Workspaces -/

/-- The numbered pieces of a workspace are there in another one, with the sizes they had. -/
def Workspace.KeepsSizes (w w' : Workspace) : Prop :=
  ∀ ⦃i : Nat⦄ ⦃p : Piece⦄, w.pieces[i]? = some p →
    ∃ q, w'.pieces[i]? = some q ∧ p.grid.SameSize q.grid

theorem Workspace.KeepsSizes.of_pieces_eq {w w' : Workspace} (h : w'.pieces = w.pieces) :
    w.KeepsSizes w' :=
  fun _ p hp ↦ ⟨p, h ▸ hp, .refl _⟩

private theorem Workspace.KeepsSizes.trans {w₁ w₂ w₃ : Workspace} (h : w₁.KeepsSizes w₂)
    (h' : w₂.KeepsSizes w₃) : w₁.KeepsSizes w₃ := by
  intro i p hp
  obtain ⟨q, hq, hpq⟩ := h hp
  obtain ⟨r, hr, hqr⟩ := h' hq
  exact ⟨r, hr, hpq.trans hqr⟩

theorem Workspace.keepsSizes_add (w : Workspace) (name : Option Text) (made : Piece) :
    w.KeepsSizes (w.add name made) := by
  intro i p hp
  refine ⟨p, ?_, .refl _⟩
  rw [pieces_add, List.getElem?_append_left (List.getElem?_eq_some_iff.1 hp).1, hp]

private theorem Workspace.keepsSizes_replace {i : Nat} {changed : Piece}
    (hp : w.pieces[i]? = some p) (hsize : p.grid.SameSize changed.grid) (name : Option Text) :
    w.KeepsSizes ((w.replace i changed).bind name i) := by
  intro j old hold
  rw [pieces_bind, pieces_replace]
  by_cases hij : i = j
  · subst hij
    obtain rfl := Option.some.inj (hp.symm.trans hold)
    exact ⟨changed, getElem?_set_of_getElem? hp changed, hsize⟩
  · exact ⟨old, by rw [List.getElem?_set_ne hij, hold], .refl _⟩

private theorem size_act {i : Nat} (hp : w.pieces[i]? = some p) :
    w.KeepsSizes (act context w i p c).2 := by
  unfold act
  split
  · exact .of_pieces_eq rfl
  · exact .of_pieces_eq rfl
  · exact w.keepsSizes_add c.name _
  · next changed r hperform =>
    cases keeps_of_perform hperform with
    | change _ _ hsize => exact Workspace.keepsSizes_replace hp hsize c.name
  · exact .of_pieces_eq rfl

/-- **Sizes stay.** No command changes the size of a piece, whether it succeeds or not. -/
theorem size_step (context : Context) (w : Workspace) (c : Command) :
    w.KeepsSizes (step context w c).2 := by
  unfold step
  split
  · exact .of_pieces_eq rfl
  · exact w.keepsSizes_add c.name _
  · split
    · exact .of_pieces_eq (pieces_nextEvent w c.arguments)
    · split
      · exact .of_pieces_eq rfl
      · next i p htarget => exact size_act (getElem?_of_target htarget)

theorem size_after (context : Context) (w : Workspace) (commands : List Command) :
    w.KeepsSizes (after context w commands) := by
  induction commands generalizing context w with
  | nil => exact .of_pieces_eq rfl
  | cons c rest ih => exact (size_step context w c).trans (ih _ _)

end Script

end TextArt
