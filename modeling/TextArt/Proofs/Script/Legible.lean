import TextArt.Proofs.Fill.Legible
import TextArt.Proofs.Script.Step
import TextArt.Proofs.Shape.Request

/-!
# Scripts with legible characters

Characters come into a workspace with the arguments of its commands: the character of a shape, a
line or a stamp, the inks of a painting, the parameters of a fill, the text a grid is read from and
the rows of glyphs. Nothing in the operations themselves keeps hidden characters and line feeds out,
so they are all right just as long as the arguments are (`Command.Legible`): then every grid that
can be reached is legible and reads back from its text. The operations do accept other characters,
and one of them is enough to break this (`not_readsBack_of_mark`).
-/

namespace TextArt.Script

open Cell (Legible)

/-- The characters that a command supplies for cells are legible. A text that is cut into rows may
have line feeds. -/
structure Command.Legible (c : Command) : Prop where
  /-- The character to draw with. -/
  char : ∀ v, (("char" : Text), v) ∈ c.arguments → v.WrittenIn Cell.Legible
  /-- The inks of a painting. -/
  values : ∀ v, (("values" : Text), v) ∈ c.arguments → v.WrittenIn Cell.Legible
  /-- The parameters of a shape or of a fill. -/
  params : ∀ fields, (("params" : Text), Value.object fields) ∈ c.arguments →
    ∀ f ∈ fields, f.2.WrittenIn Cell.Legible
  /-- The text to read a grid from. -/
  content : ∀ v, (("content" : Text), v) ∈ c.arguments → v.WrittenIn (· ≠ Cell.hidden)
  /-- The rows of glyphs. -/
  glyphs : ∀ v, (("glyphs" : Text), v) ∈ c.arguments → v.WrittenIn (· ≠ Cell.hidden)

variable {context : Context} {w : Workspace} {g : Grid} {c : Command} {action : String}

theorem Command.Legible.writtenIn_char (hc : c.Legible) {default : Value}
    (hdefault : default.WrittenIn Cell.Legible) :
    (c.arguments.argument "char" default).WrittenIn Cell.Legible :=
  Fields.writtenIn_argument hc.char hdefault

private theorem Command.Legible.params_char (hc : c.Legible) {fields : Fields}
    (h : (c.arguments.argument "params" (.object [])).arguments = .ok fields) :
    ∀ f ∈ fields, f.2.WrittenIn Cell.Legible := by
  rcases c.arguments.argument_cases "params" (.object []) with ⟨-, hd⟩ | ⟨v, hv, hd⟩
  · rw [hd] at h
    obtain rfl := Except.ok.inj h
    exact fun f hf ↦ absurd hf List.not_mem_nil
  · rw [hd] at h
    cases v with
    | object given =>
      obtain rfl := Except.ok.inj h
      exact hc.params given hv
    | _ => cases h

/-! ## Making grids -/

private theorem legible_of_requestNew {width height : Value}
    (h : Grid.requestNew width height = .ok g) :
    g.Legible := by
  obtain ⟨w, -, h⟩ := bind_eq_ok.1 h
  split at h
  · cases h
  · obtain ⟨n, -, h⟩ := bind_eq_ok.1 h
    split at h
    · cases h
    · split at h
      · split at h
        · next g' hg' =>
          obtain rfl := Except.ok.inj h
          unfold Grid.blank? at hg'
          split at hg'
          · obtain rfl := Option.some.inj hg'
            exact Grid.legible_blank _ _ _ _
          · cases hg'
        · cases h
      · cases h

private theorem shown_of_glyphsOf {v : Value} {m : GlyphMap} (hv : v.WrittenIn (· ≠ Cell.hidden))
    (h : glyphsOf v = .ok m) : m.Shown := by
  unfold glyphsOf at h
  split at h
  · obtain rfl := Except.ok.inj h
    exact GlyphMap.standard_shown
  · obtain ⟨pairs, hpairs, h⟩ := bind_eq_ok.1 h
    refine GlyphMap.shown_of_ofList h fun e he l hl ↦ ?_
    obtain ⟨item, hitem, hread⟩ := exists_of_mem_mapM_ok hpairs he
    split at hread
    · next char rows =>
      split at hread
      · next texts htexts =>
        obtain rfl := Except.ok.inj hread
        obtain ⟨row, hrow, htext⟩ := exists_of_mem_mapM_some htexts hl
        have hrows := (hv.items _ hitem).items (.list rows) (by simp)
        have hshown := hrows.items row hrow
        cases row <;> simp only [Value.text?, reduceCtorEq, Option.some.injEq] at htext
        subst htext
        exact fun hmem ↦ hshown.chars _ hmem rfl
      · cases hread
    · cases hread
  · cases h

private theorem legible_of_requestText {content : Value}
    (hcontent : content.WrittenIn (· ≠ Cell.hidden))
    (h : Grid.requestText content = .ok g) : g.Legible := by
  unfold Grid.requestText at h
  split at h
  · exact Grid.legible_of_ofText (fun hmem ↦ hcontent.chars _ hmem rfl) h
  · cases h

private theorem legible_of_request {shape params : Value}
    (hparams : ∀ fields, params = .object fields → ∀ f ∈ fields, f.2.WrittenIn Cell.Legible)
    (h : Shape.request shape params = .ok g) : g.Legible := by
  obtain ⟨kind, -, h⟩ := bind_eq_ok.1 h
  obtain ⟨fields, hfields, h⟩ := bind_eq_ok.1 h
  have hobject : params = .object fields := by
    cases params with
    | object given => exact congrArg _ (Except.ok.inj hfields)
    | _ => cases hfields
  exact Shape.legible_of_requestKind (fun v hv ↦ hparams fields hobject _ hv) h

private theorem legible_of_construct? {alwaysPlain : Bool} (hc : c.Legible)
    (h : construct? c.action c.arguments = some (.ok (g, alwaysPlain))) : g.Legible := by
  unfold construct? at h
  extract_lets canBeCanvas at h
  have hmade {o : Outcome Grid} (ho : canBeCanvas o = some (.ok (g, alwaysPlain))) :
      o = .ok g := by
    obtain ⟨g', hg', heq⟩ := map_eq_ok.1 (Option.some.inj ho)
    obtain ⟨rfl, -⟩ := Prod.mk.inj heq
    exact hg'
  split at h
  · -- new
    obtain ⟨_, -, h⟩ := bind_eq_ok.1 (hmade h)
    exact legible_of_requestNew h
  · -- from_dimensions
    obtain ⟨_, -, h⟩ := bind_eq_ok.1 (hmade h)
    exact legible_of_requestNew h
  · -- from_string
    obtain ⟨_, -, h⟩ := bind_eq_ok.1 (hmade h)
    exact legible_of_requestText (Fields.writtenIn_argument hc.content .null) h
  · -- generate
    obtain ⟨_, -, h⟩ := bind_eq_ok.1 (Option.some.inj h)
    obtain ⟨drawn, hdrawn, h⟩ := bind_eq_ok.1 h
    obtain ⟨rfl, -⟩ := Prod.mk.inj (Except.ok.inj h)
    refine legible_of_request (fun fields hfields ↦ ?_) hdrawn
    rcases c.arguments.argument_cases "params" .null with ⟨-, hd⟩ | ⟨v, hv, hd⟩
    · rw [hd] at hfields
      cases hfields
    · obtain rfl := hd.symm.trans hfields
      exact hc.params fields hv
  · exact Shape.legible_of_requestCircle hc.char (hmade h)
  · exact Shape.legible_of_requestRectangle hc.char (hmade h)
  · exact Shape.legible_of_requestPolygon hc.char (hmade h)
  · -- create_text
    obtain ⟨_, -, h⟩ := bind_eq_ok.1 (Option.some.inj h)
    obtain ⟨glyphs, hglyphs, h⟩ := bind_eq_ok.1 h
    obtain ⟨drawn, hdrawn, h⟩ := bind_eq_ok.1 h
    obtain ⟨rfl, -⟩ := Prod.mk.inj (Except.ok.inj h)
    exact Shape.legible_of_requestBanner
      (shown_of_glyphsOf (Fields.writtenIn_argument hc.glyphs .null) hglyphs) hdrawn
  · cases h

/-! ## Deriving grids -/

private theorem legible_of_requestClip {startRow endRow startCol endCol : Value} {g' : Grid}
    (hg : g.Legible) (h : g.requestClip startRow endRow startCol endCol = .ok g') :
    g'.Legible := by
  obtain ⟨r0, -, h⟩ := bind_eq_ok.1 h
  obtain ⟨r1, -, h⟩ := bind_eq_ok.1 h
  obtain ⟨c0, -, h⟩ := bind_eq_ok.1 h
  obtain ⟨c1, -, h⟩ := bind_eq_ok.1 h
  dsimp only at h
  split at h
  · obtain rfl := Except.ok.inj h
    exact Grid.legible_single
  · split at h
    · obtain rfl := Except.ok.inj h
      exact Grid.legible_clip hg _ _ _ _
    · cases h

private theorem legible_of_requestCenter {targetWidth : Value} {g' : Grid} (hg : g.Legible)
    (h : g.requestCenter targetWidth = .ok g') : g'.Legible := by
  obtain ⟨n, -, h⟩ := bind_eq_ok.1 h
  split at h
  · split at h
    · obtain rfl := Except.ok.inj h
      exact hg
    · cases h
  · obtain rfl := Except.ok.inj h
    exact Grid.legible_centerHorizontally hg _

private theorem legible_applyAll (hg : g.Legible) (transforms : List Transform) :
    (g.applyAll transforms).Legible := by
  unfold Grid.applyAll
  induction transforms generalizing g with
  | nil => exact hg
  | cons t rest ih => exact ih (Grid.legible_apply hg t)

private theorem legible_of_requestTransform {steps : Value} {g' : Grid} (hg : g.Legible)
    (h : g.requestTransform steps = .ok g') : g'.Legible := by
  obtain ⟨items, -, h⟩ := bind_eq_ok.1 h
  obtain ⟨transforms, -, h⟩ := bind_eq_ok.1 h
  obtain rfl := Except.ok.inj h
  exact legible_applyAll hg transforms

private theorem legible_of_derive? {arguments : Fields} {g' : Grid} (hg : g.Legible)
    (h : derive? g action arguments = some (.ok g')) : g'.Legible := by
  unfold derive? at h
  split at h
  case h_9 => cases h
  -- the arguments of all the others are checked first
  all_goals obtain ⟨_, -, h⟩ := bind_eq_ok.1 (Option.some.inj h)
  · -- copy
    obtain rfl := Except.ok.inj h
    exact hg
  · -- rotate
    obtain ⟨turn, -, h⟩ := bind_eq_ok.1 h
    obtain rfl := Except.ok.inj h
    exact Grid.legible_apply hg (.rotate turn)
  · -- mirror
    obtain ⟨axis, -, h⟩ := bind_eq_ok.1 h
    obtain rfl := Except.ok.inj h
    exact Grid.legible_apply hg (.mirror axis)
  · -- scale
    obtain ⟨size, -, h⟩ := bind_eq_ok.1 h
    obtain rfl := Except.ok.inj h
    exact Grid.legible_apply hg (.scale size)
  · -- apply_transformation
    obtain ⟨t, -, h⟩ := bind_eq_ok.1 h
    obtain rfl := Except.ok.inj h
    exact Grid.legible_apply hg t
  · exact legible_of_requestTransform hg h
  · exact legible_of_requestClip hg h
  · exact legible_of_requestCenter hg h

/-! ## Writing on grids -/

private theorem legible_setRow (hg : g.Legible) {cell : Cell} (hcell : cell.Legible) (row : Int) :
    (g.setRow row cell).Legible := by
  unfold Grid.setRow
  split
  · refine Grid.legible_mapCells hg fun i j old hold ↦ ?_
    split
    · exact hcell
    · exact hold
  · exact hg

theorem legible_setPlace (hg : g.Legible) {cell : Cell} (hcell : cell.Legible)
    (place : Grid.Place) : (g.setPlace cell place).Legible := by
  cases place with
  | cell row col => exact Grid.legible_drawPoints hg [(row, col)] hcell
  | row row => exact legible_setRow hg hcell row
  | all => exact Grid.legible_mapCells hg fun _ _ _ _ ↦ hcell
  | none => exact hg

private theorem legible_of_requestSet {row col char : Value} {g' : Grid} (hg : g.Legible)
    (hchar : char.WrittenIn Cell.Legible) (h : g.requestSet row col char = .ok g') :
    g'.Legible := by
  obtain ⟨cell, hcell, h⟩ := bind_eq_ok.1 h
  obtain ⟨inside, -, h⟩ := bind_eq_ok.1 h
  split at h
  · obtain ⟨place, -, h⟩ := bind_eq_ok.1 h
    obtain rfl := Except.ok.inj h
    exact legible_setPlace hg (Value.legible_of_cell hcell hchar) place
  · obtain rfl := Except.ok.inj h
    exact hg

private theorem legible_of_requestSetRow {row char : Value} {g' : Grid} (hg : g.Legible)
    (hchar : char.WrittenIn Cell.Legible) (h : g.requestSetRow row char = .ok g') :
    g'.Legible := by
  obtain ⟨cell, hcell, h⟩ := bind_eq_ok.1 h
  obtain ⟨inside, -, h⟩ := bind_eq_ok.1 h
  split at h
  · obtain ⟨place, -, h⟩ := bind_eq_ok.1 h
    obtain rfl := Except.ok.inj h
    exact legible_setPlace hg (Value.legible_of_cell hcell hchar) place
  · obtain rfl := Except.ok.inj h
    exact hg

private theorem legible_of_requestLine {start finish char : Value} {g' : Grid} (hg : g.Legible)
    (hchar : char.WrittenIn Cell.Legible) (h : g.requestLine start finish char = .ok g') :
    g'.Legible := by
  obtain ⟨cell, hcell, h⟩ := bind_eq_ok.1 h
  obtain ⟨s, -, h⟩ := bind_eq_ok.1 h
  obtain ⟨f, -, h⟩ := bind_eq_ok.1 h
  obtain rfl := Except.ok.inj h
  exact Grid.legible_drawPoints hg _ (Value.legible_of_cell hcell hchar)

theorem legible_of_requestOverlay {source : Grid} {row col char transparent : Value} {g' : Grid}
    (hg : g.Legible) (hs : source.Legible) (hchar : char.WrittenIn Cell.Legible)
    (h : g.requestOverlay source row col char transparent = .ok g') : g'.Legible := by
  obtain ⟨cell, hcell, h⟩ := bind_eq_ok.1 h
  have hlegible : ∀ d ∈ cell, d.Legible := by
    unfold Grid.optionalCell at hcell
    split at hcell
    · obtain rfl := Except.ok.inj hcell
      simp
    · obtain ⟨d, hd, hcell⟩ := bind_eq_ok.1 hcell
      obtain rfl := Except.ok.inj hcell
      intro e he
      obtain rfl := Option.some.inj he
      exact Value.legible_of_cell hd hchar
  obtain ⟨r, -, h⟩ := bind_eq_ok.1 h
  obtain ⟨k, -, h⟩ := bind_eq_ok.1 h
  split at h
  · obtain rfl := Except.ok.inj h
    exact Grid.legible_overlay hg hs _ _ hlegible _
  · split at h
    · obtain rfl := Except.ok.inj h
      exact hg
    · cases h

private theorem legible_of_write? {r : Result} {g' : Grid} (hg : g.Legible)
    (hramp : Text.Legible context.settings.render.densityRamp) (hc : c.Legible)
    (h : write? context g c.action c.arguments = some (.ok (g', r))) : g'.Legible := by
  unfold write? at h
  extract_lets silent at h
  have hsilent {o : Outcome Grid} (ho : silent o = some (.ok (g', r))) : o = .ok g' := by
    obtain ⟨made, hmade, heq⟩ := map_eq_ok.1 (Option.some.inj ho)
    obtain ⟨rfl, -⟩ := Prod.mk.inj heq
    exact hmade
  split at h
  · -- set
    obtain ⟨_, -, h⟩ := bind_eq_ok.1 (hsilent h)
    exact legible_of_requestSet hg (hc.writtenIn_char .null) h
  · -- set_row
    obtain ⟨_, -, h⟩ := bind_eq_ok.1 (hsilent h)
    exact legible_of_requestSetRow hg (hc.writtenIn_char .null) h
  · -- draw_line
    obtain ⟨_, -, h⟩ := bind_eq_ok.1 (hsilent h)
    exact legible_of_requestLine hg
      (hc.writtenIn_char (.singleton (show Cell.Legible (.char '*') by decide))) h
  · -- paint_blanks
    obtain ⟨_, -, h⟩ := bind_eq_ok.1 (Option.some.inj h)
    obtain ⟨painted, hpainted, h⟩ := bind_eq_ok.1 h
    obtain ⟨rfl, -⟩ := Prod.mk.inj (Except.ok.inj h)
    exact Grid.legible_of_requestPaint hg (Fields.writtenIn_argument hc.values .null) hpainted
  · -- fill
    obtain ⟨_, -, h⟩ := bind_eq_ok.1 (Option.some.inj h)
    obtain ⟨params, hparams, h⟩ := bind_eq_ok.1 h
    obtain ⟨painted, hpainted, h⟩ := bind_eq_ok.1 h
    obtain ⟨rfl, -⟩ := Prod.mk.inj (Except.ok.inj h)
    exact FillRegistry.legible_of_apply hg hramp (hc.params_char hparams) hpainted
  · cases h

/-! ## Two grids -/

private theorem legible_of_append {join : Grid → Grid → Outcome Grid} {other joined : Grid}
    (hjoin : ∃ made, join g other = .ok made ∧ made.Legible)
    (h : join g other = .ok joined) : joined.Legible := by
  obtain ⟨made, hmade, hlegible⟩ := hjoin
  obtain rfl := Except.ok.inj (hmade.symm.trans h)
  exact hlegible

private theorem legible_of_requestShape {canvas canvas' : Composite Nat} {mark : Nat} {shape : Grid}
    {anchor offsetRow offsetCol char : Value} (hcanvas : canvas.canvas.Legible)
    (hshape : shape.Legible) (hchar : char.WrittenIn Cell.Legible)
    (h : canvas.requestShape mark shape anchor offsetRow offsetCol char = .ok canvas') :
    canvas'.canvas.Legible := by
  obtain ⟨place, -, h⟩ := bind_eq_ok.1 h
  obtain ⟨⟨row, col⟩, -, h⟩ := bind_eq_ok.1 h
  obtain ⟨painted, hpainted, h⟩ := bind_eq_ok.1 h
  obtain ⟨_, -, h⟩ := bind_eq_ok.1 h
  obtain ⟨_, -, h⟩ := bind_eq_ok.1 h
  obtain ⟨_, -, h⟩ := bind_eq_ok.1 h
  obtain ⟨_, -, h⟩ := bind_eq_ok.1 h
  obtain ⟨_, -, h⟩ := bind_eq_ok.1 h
  obtain rfl := Except.ok.inj h
  exact legible_of_requestOverlay hcanvas hshape hchar hpainted

private theorem legible_of_pieceOf {arguments : Fields} {key : Text} {i : Nat} {p : Piece}
    (hw : ∀ q ∈ w.pieces, q.grid.Legible) (h : pieceOf w arguments key = .ok (i, p)) :
    p.grid.Legible := by
  obtain ⟨name, -, hfind⟩ := pieceOf_eq_ok.1 h
  exact hw p (w.mem_of_find? hfind)

private theorem legible_of_combine? {old p : Piece} {effect : Effect}
    (hw : ∀ q ∈ w.pieces, q.grid.Legible) (hold : old.grid.Legible) (hc : c.Legible)
    (h : combine? w old c.action c.arguments = some (.ok effect)) (hleaves : effect.Leaves p) :
    p.grid.Legible := by
  unfold combine? at h
  -- three actions join grids and two stamp one on another, each kind in one way
  extract_lets joined stamped at h
  have hjoined {join : Grid → Grid → Outcome Grid}
      (hjoin : ∀ other : Grid, other.Legible →
        ∃ made, join old.grid other = .ok made ∧ made.Legible)
      (h : joined join = some (.ok effect)) : p.grid.Legible := by
    obtain ⟨⟨j, other⟩, hother, h⟩ := bind_eq_ok.1 (Option.some.inj h)
    obtain ⟨made, hmade, h⟩ := bind_eq_ok.1 h
    obtain ⟨_, -, hmade⟩ := bind_eq_ok.1 (lift_eq_ok.1 hmade)
    obtain rfl := Except.ok.inj h
    cases hleaves
    exact legible_of_append (hjoin _ (legible_of_pieceOf hw hother)) hmade
  have hstamped (h : stamped = some (.ok effect)) : p.grid.Legible := by
    obtain ⟨⟨j, source⟩, hsource, h⟩ := bind_eq_ok.1 (Option.some.inj h)
    obtain ⟨painted, hpainted, h⟩ := bind_eq_ok.1 h
    obtain ⟨_, -, hpainted⟩ := bind_eq_ok.1 (lift_eq_ok.1 hpainted)
    obtain rfl := Except.ok.inj h
    cases hleaves
    rw [grid_withGrid]
    exact legible_of_requestOverlay hold (legible_of_pieceOf hw hsource)
      (hc.writtenIn_char .null) hpainted
  split at h
  · exact hjoined (fun _ ho ↦ Grid.rightAppend_legible hold ho) h
  · exact hjoined (fun _ ho ↦ Grid.topAppend_legible hold ho) h
  · exact hjoined (fun _ ho ↦ Grid.bottomAppend_legible hold ho) h
  · exact hstamped h
  · exact hstamped h
  · -- eq
    obtain ⟨_, -, h⟩ := bind_eq_ok.1 (Option.some.inj h)
    obtain ⟨_, -, h⟩ := bind_eq_ok.1 h
    obtain rfl := Except.ok.inj h
    cases hleaves
  · -- anchor_origin
    cases old with
    | plain _ => cases Option.some.inj h
    | composite canvas =>
      obtain ⟨_, -, h⟩ := bind_eq_ok.1 (Option.some.inj h)
      obtain ⟨_, -, h⟩ := bind_eq_ok.1 h
      obtain rfl := Except.ok.inj h
      cases hleaves
  · -- add_shape
    cases old with
    | plain _ => cases Option.some.inj h
    | composite canvas =>
      obtain ⟨⟨j, shape⟩, hshape, h⟩ := bind_eq_ok.1 (Option.some.inj h)
      obtain ⟨placed, hplaced, h⟩ := bind_eq_ok.1 h
      obtain ⟨_, -, hplaced⟩ := bind_eq_ok.1 (lift_eq_ok.1 hplaced)
      obtain rfl := Except.ok.inj h
      cases hleaves
      exact legible_of_requestShape hold (legible_of_pieceOf hw hshape)
        (hc.writtenIn_char .null) hplaced
  · -- layers
    cases old with
    | plain _ => cases Option.some.inj h
    | composite canvas =>
      obtain rfl := Except.ok.inj (Option.some.inj h)
      cases hleaves
  · -- repr
    obtain rfl := Except.ok.inj (Option.some.inj h)
    cases hleaves
  · -- stream_open
    obtain rfl := Except.ok.inj (Option.some.inj h)
    cases hleaves
  · cases h

/-! ## All commands -/

private theorem legible_of_perform {old p : Piece} {effect : Effect}
    (hramp : Text.Legible context.settings.render.densityRamp)
    (hw : ∀ q ∈ w.pieces, q.grid.Legible) (hold : old.grid.Legible) (hc : c.Legible)
    (h : perform context w old c.action c.arguments = .ok effect) (hleaves : effect.Leaves p) :
    p.grid.Legible := by
  unfold perform at h
  split at h
  · -- a question leaves no piece
    obtain ⟨r, -, rfl⟩ := map_eq_ok.1 h
    cases hleaves
  · split at h
    · next o hderive =>
      obtain ⟨made, hmade, rfl⟩ := map_lift_eq_ok.1 h
      cases hleaves
      exact legible_of_derive? hold (hderive.trans (congrArg some hmade))
    · split at h
      · next o hwrite =>
        obtain ⟨⟨painted, r⟩, hpainted, rfl⟩ := map_lift_eq_ok.1 h
        cases hleaves
        rw [grid_withGrid]
        exact legible_of_write? hold hramp hc (hwrite.trans (congrArg some hpainted))
      · cases hcombine : combine? w old c.action c.arguments with
        | none =>
          rw [hcombine] at h
          cases h
        | some o =>
          rw [hcombine] at h
          exact legible_of_combine? hw hold hc (hcombine.trans (congrArg some h)) hleaves

private theorem legible_of_arises {p : Piece}
    (hramp : Text.Legible context.settings.render.densityRamp)
    (hw : ∀ q ∈ w.pieces, q.grid.Legible) (hc : c.Legible) (h : Arises context w c p) :
    p.grid.Legible := by
  cases h with
  | constructed alwaysPlain h => exact legible_of_construct? hc h
  | performed i old effect htarget h hleaves =>
    have hold : old ∈ w.pieces := List.mem_of_getElem? (getElem?_of_target htarget)
    exact legible_of_perform hramp hw (hw old hold) hc h hleaves

/-- **Reading back.** Whatever commands with legible characters come after each other, and whether
they are turned down or not, every grid of the workspace has one line for every row, one character
in it for every column, and is read back from its text. -/
theorem readsBack_of_reachable {settings : Settings} {fills : FillRegistry}
    (hramp : Text.Legible settings.render.densityRamp)
    (h : Reachable settings fills Command.Legible w) : ∀ p ∈ w.pieces, p.grid.ReadsBack := by
  have hlegible : ∀ p ∈ w.pieces, p.grid.Legible :=
    h.invariant fun entropy w c p hw hc hp ↦
      @legible_of_arises ⟨settings, fills, entropy⟩ w c p hramp hw hc hp
  exact fun p hp ↦ Grid.readsBack_iff_legible.2 (hlegible p hp)

/-- A grid of two cells, and a character for the first one. -/
def markFirst (char : Text) : List Command :=
  [⟨"new", none, some "g", false, [("width", .int 2), ("height", .int 1)]⟩,
    ⟨"set", some "g", none, false, [("row", .int 0), ("col", .int 0), ("char", .str char)]⟩]

theorem readsBack_of_dot :
    (after .standard .empty (markFirst ".")).pieces.map (·.grid.toText) = [(". " : Text)] ∧
      ∀ p ∈ (after .standard .empty (markFirst ".")).pieces, p.grid.ReadsBack := by
  have hdot : (Value.str ".").WrittenIn Cell.Legible :=
    .singleton (show Cell.Legible (.char '.') by decide)
  have hlegible : ∀ c ∈ markFirst ".", c.Legible := by
    intro c hc
    rw [markFirst, List.mem_cons, List.mem_singleton] at hc
    rcases hc with rfl | rfl <;> constructor <;> simp [hdot]
  have hreachable := @Reachable.after .standard _ _ .empty _ hlegible
  exact ⟨by decide, readsBack_of_reachable (by decide) hreachable⟩

/-- Two characters are accepted that break the line they are in: a hidden cell is missing in it, and
a line feed makes two lines of it. Neither grid reads back. -/
theorem not_readsBack_of_mark :
    ((run .standard .empty (markFirst "\x00")).all (·.answer matches .ok _) ∧
      (after .standard .empty (markFirst "\x00")).pieces.map (·.grid.toText) = [(" " : Text)] ∧
      ∀ p ∈ (after .standard .empty (markFirst "\x00")).pieces, ¬ p.grid.ReadsBack) ∧
    ((run .standard .empty (markFirst "\n")).all (·.answer matches .ok _) ∧
      (after .standard .empty (markFirst "\n")).pieces.map (·.grid.toText) = [("\n " : Text)] ∧
      ∀ p ∈ (after .standard .empty (markFirst "\n")).pieces, ¬ p.grid.ReadsBack) := by
  let row := Grid.blank 2 1 Nat.two_pos Nat.one_pos
  have hhidden : (after .standard .empty (markFirst "\x00")).pieces =
      [.plain (row.set 0 0 Cell.hidden)] := rfl
  have hbreak :
      (after .standard .empty (markFirst "\n")).pieces = [.plain (row.set 0 0 (.char '\n'))] :=
    rfl
  refine ⟨⟨by decide, by decide, ?_⟩, ⟨by decide, by decide, ?_⟩⟩
  · rw [hhidden]
    rintro p hp
    obtain rfl := List.mem_singleton.1 hp
    exact Grid.not_readsBack_set (g := row) Nat.one_pos Nat.two_pos (by decide)
  · rw [hbreak]
    rintro p hp
    obtain rfl := List.mem_singleton.1 hp
    exact Grid.not_readsBack_set (g := row) Nat.one_pos Nat.two_pos (by decide)

end TextArt.Script
