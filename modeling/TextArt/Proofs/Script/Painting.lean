import TextArt.Proofs.Composite
import TextArt.Proofs.Script.Step

/-!
# Painting a canvas in a script

A script may place shapes on a new canvas, one call after the other, while it does other things in
between. Each call succeeds or fails: `placement?` says what has to be logged, and that there is
nothing to log just if the call fails. `Painting` goes along with the script and keeps this log,
with every shape as it was when it was placed. The canvas shows the log at any time
(`Painting.shows`).
-/

namespace TextArt.Script

variable {context : Context} {w : Workspace} {c : Command} {k cols rows : Nat}
  {canvas : Composite Nat} {offsetRow offsetCol : Int} {log : List (Layer (Nat × Grid))}

/-- The grid of a numbered piece as it looks now. -/
def Workspace.gridOf (w : Workspace) (n : Nat) : Grid :=
  ((w.pieces[n]?).map Piece.grid).getD .single

/-- The command asks the `k`-th piece, a canvas, to place a shape at whole-numbered offsets. -/
structure Places (w : Workspace) (c : Command) (k : Nat) (canvas : Composite Nat)
    (offsetRow offsetCol : Int) : Prop where
  /-- What to do. -/
  action : c.action = "add_shape"
  /-- The canvas. -/
  target : c.target.bind w.find? = some (k, .composite canvas)
  /-- How far to move the shape down, or inwards. -/
  row : c.arguments.argument "offset_row" (.int 0) = .int offsetRow
  /-- How far to move it to the right, or inwards. -/
  col : c.arguments.argument "offset_col" (.int 0) = .int offsetCol

/-- The layer that a placement adds, with its shape as it looks now; nothing if the shape, the
arguments, the anchor or the character are no good. -/
def placement? (w : Workspace) (canvas : Grid) (c : Command) (offsetRow offsetCol : Int) :
    Option (Layer (Nat × Grid)) :=
  match pieceOf w c.arguments "shape",
    c.arguments.accept ["shape"] ["anchor", "offset_row", "offset_col", "char"],
    Anchor.ofRequest (c.arguments.argument "anchor" (.str "center")),
    Grid.optionalCell (c.arguments.argument "char" .null) with
  | .ok (j, shape), .ok (), .ok anchor, .ok char =>
    some (.placed canvas shape.grid (j, shape.grid) anchor offsetRow offsetCol char)
  | _, _, _, _ => none

/-! ## One call -/

theorem step_of_places (h : Places w c k canvas offsetRow offsetCol) :
    step context w c = act context w k (.composite canvas) c := by
  refine step_of_target ?_ ?_ h.target
  · rw [h.action]
    rfl
  · rw [h.action]
    decide

theorem perform_addShape (h : Places w c k canvas offsetRow offsetCol) :
    perform context w (.composite canvas) c.action c.arguments = (do
      let (j, shape) ← pieceOf w c.arguments "shape"
      let next ← lift do
        c.arguments.accept ["shape"] ["anchor", "offset_row", "offset_col", "char"]
        let anchor ← Anchor.ofRequest (c.arguments.argument "anchor" (.str "center"))
        let char ← Grid.optionalCell (c.arguments.argument "char" .null)
        .ok (canvas.addShape j shape.grid anchor offsetRow offsetCol char)
      .ok (.change (.composite next) .itself)) := by
  have hperform : perform context w (.composite canvas) "add_shape" c.arguments = (do
      let (j, shape) ← pieceOf w c.arguments "shape"
      let next ← lift do
        c.arguments.accept ["shape"] ["anchor", "offset_row", "offset_col", "char"]
        canvas.requestShape j shape.grid (c.arguments.argument "anchor" (.str "center"))
          (c.arguments.argument "offset_row" (.int 0)) (c.arguments.argument "offset_col" (.int 0))
          (c.arguments.argument "char" .null)
      .ok (.change (.composite next) .itself)) := rfl
  rw [h.action, hperform, h.row, h.col]
  simp only [Composite.requestShape_int]

theorem step_of_placement (context : Context) (h : Places w c k canvas offsetRow offsetCol)
    {layer : Layer (Nat × Grid)}
    (hlayer : placement? w canvas.canvas c offsetRow offsetCol = some layer) :
    ∃ next : Composite Nat,
      step context w c = (.ok .itself, (w.replace k (.composite next)).bind c.name k) ∧
      ∀ {log}, canvas.Shows cols rows log → next.Shows cols rows (log ++ [layer]) := by
  unfold placement? at hlayer
  split at hlayer
  · next j shape anchor char hshape haccept hanchor hchar =>
    obtain rfl := Option.some.inj hlayer
    refine ⟨canvas.addShape j shape.grid anchor offsetRow offsetCol char, ?_, fun hshows ↦
      hshows.addShape j shape.grid anchor offsetRow offsetCol char⟩
    rw [step_of_places h, act, perform_addShape h, hshape, haccept, hanchor, hchar]
    rfl
  · cases hlayer

theorem step_of_no_placement (context : Context) (h : Places w c k canvas offsetRow offsetCol)
    (hnone : placement? w canvas.canvas c offsetRow offsetCol = none) :
    ∃ trouble, step context w c = (.error trouble, w) := by
  have hfails : ∃ trouble, perform context w (.composite canvas) c.action c.arguments =
      .error trouble := by
    unfold placement? at hnone
    rw [perform_addShape h]
    -- the steps of the call are the same that `placement?` takes, so one of them stops it
    cases hshape : pieceOf w c.arguments "shape" with
    | error trouble => exact ⟨trouble, rfl⟩
    | ok found =>
      rw [hshape] at hnone
      cases haccept : c.arguments.accept ["shape"] ["anchor", "offset_row", "offset_col",
          "char"] with
      | error cause => exact ⟨.failed cause, rfl⟩
      | ok _ =>
        cases hanchor : Anchor.ofRequest (c.arguments.argument "anchor" (.str "center")) with
        | error cause => exact ⟨.failed cause, rfl⟩
        | ok anchor =>
          cases hchar : Grid.optionalCell (c.arguments.argument "char" .null) with
          | error cause => exact ⟨.failed cause, rfl⟩
          | ok char =>
            rw [haccept, hanchor, hchar] at hnone
            cases hnone
  obtain ⟨trouble, htrouble⟩ := hfails
  exact ⟨trouble, by rw [step_of_places h, act, htrouble]⟩

/-! ## Many calls -/

/-- The script has come to a workspace, and the log is what was placed on the `k`-th piece since
that was a new canvas. Between the calls nothing else may change the canvas. -/
inductive Painting (context : Context) (k cols rows : Nat) :
    Workspace → List (Layer (Nat × Grid)) → Prop where
  /-- The canvas is new. -/
  | start {w : Workspace} (hcols : 0 < cols) (hrows : 0 < rows)
      (h : w.pieces[k]? = some (.composite (.ofGrid (.blank cols rows hcols hrows)))) :
      Painting context k cols rows w []
  /-- A shape is placed, or the call fails. -/
  | place {w : Workspace} {log : List (Layer (Nat × Grid))} {c : Command}
      {canvas : Composite Nat} {offsetRow offsetCol : Int}
      (h : Painting context k cols rows w log) (hc : Places w c k canvas offsetRow offsetCol) :
      Painting context k cols rows (step context w c).2
        (log ++ (placement? w canvas.canvas c offsetRow offsetCol).toList)
  /-- Something else is done. -/
  | other {w : Workspace} {log : List (Layer (Nat × Grid))} {c : Command}
      (h : Painting context k cols rows w log)
      (hsame : (step context w c).2.pieces[k]? = w.pieces[k]?) :
      Painting context k cols rows (step context w c).2 log

private theorem Painting.shows (h : Painting context k cols rows w log) :
    ∃ canvas : Composite Nat, w.pieces[k]? = some (.composite canvas) ∧
      canvas.Shows cols rows log := by
  induction h with
  | start hcols hrows h => exact ⟨_, h, Composite.shows_blank hcols hrows⟩
  | @place w log c canvas offsetRow offsetCol h hc ih =>
    obtain ⟨canvas', hcanvas', hshows⟩ := ih
    have hcanvas := getElem?_of_target hc.target
    -- the command is about the very canvas that shows the log so far
    obtain rfl : canvas' = canvas := by
      rw [hcanvas'] at hcanvas
      exact Piece.composite.inj (Option.some.inj hcanvas)
    cases hlayer : placement? w canvas'.canvas c offsetRow offsetCol with
    | none =>
      obtain ⟨trouble, hstep⟩ := step_of_no_placement context hc hlayer
      rw [hstep, Option.toList_none, List.append_nil]
      exact ⟨canvas', hcanvas, hshows⟩
    | some layer =>
      obtain ⟨next, hstep, hnext⟩ := step_of_placement context hc hlayer
      refine ⟨next, ?_, hnext hshows⟩
      rw [hstep, Workspace.pieces_bind, Workspace.pieces_replace, getElem?_set_of_getElem? hcanvas]
  | other h hsame ih =>
    obtain ⟨canvas, hcanvas, hshows⟩ := ih
    exact ⟨canvas, hsame.trans hcanvas, hshows⟩

/-- **The painter's law.** However a script has come here, the canvas has its size and its log
still, and every cell shows the topmost layer that has something to show there, so long as the
shapes look as they did when they were placed. A further call either adds its one layer to the log,
or it fails and nothing changes. -/
theorem Painting.cells_topmost (h : Painting context k cols rows w log) :
    ∃ canvas : Composite Nat, w.pieces[k]? = some (.composite canvas) ∧
      canvas.Shows cols rows log ∧
      ((∀ layer ∈ log, w.gridOf layer.shape.1 = layer.shape.2) →
        ∀ row col, row < rows → col < cols → canvas.canvas.cellAt row col =
          topmost (canvas.layers.map (Layer.withMark w.gridOf)) row col) ∧
      ∀ c offsetRow offsetCol, Places w c k canvas offsetRow offsetCol →
        (∃ layer, placement? w canvas.canvas c offsetRow offsetCol = some layer ∧
          (step context w c).1 = .ok .itself ∧
          ∃ next : Composite Nat, (step context w c).2.pieces[k]? = some (.composite next) ∧
            next.layers = canvas.layers ++ [layer.withMark Prod.fst]) ∨
        (placement? w canvas.canvas c offsetRow offsetCol = none ∧
          ∃ trouble, step context w c = (.error trouble, w)) := by
  obtain ⟨canvas, hcanvas, hshows⟩ := h.shows
  refine ⟨canvas, hcanvas, hshows, fun hsame row col hrow hcol ↦
    hshows.topmost_marks hsame hrow hcol, fun c offsetRow offsetCol hc ↦ ?_⟩
  cases hlayer : placement? w canvas.canvas c offsetRow offsetCol with
  | none => exact .inr ⟨rfl, step_of_no_placement context hc hlayer⟩
  | some layer =>
    obtain ⟨next, hstep, hnext⟩ := step_of_placement context hc hlayer
    refine .inl ⟨layer, rfl, by rw [hstep], next, ?_, ?_⟩
    · rw [hstep, Workspace.pieces_bind, Workspace.pieces_replace, getElem?_set_of_getElem? hcanvas]
    · rw [(hnext hshows).layers, List.map_append, ← hshows.layers, List.map_singleton]

/-- Places the letters on the canvas. -/
def placeLetters (arguments : Fields) : Command :=
  ⟨"add_shape", some "canvas", none, false, ("shape", .str "letters") :: arguments⟩

/-- Two letters on a canvas, once as they are and once as crosses; the call between is for an anchor
that does not exist. -/
def twoLayers : List Command :=
  [⟨"new", none, some "canvas", true, [("width", .int 4), ("height", .int 2)]⟩,
    ⟨"from_string", none, some "letters", false, [("content", .str "a b\n cd")]⟩,
    placeLetters [("anchor", .str "topLeft")],
    placeLetters [("anchor", .str "middle")],
    placeLetters [("anchor", .str "bottomRight"), ("offset_row", .int 1), ("char", .str "x")]]

theorem twoLayers_topmost :
    (run .standard .empty twoLayers).map (·.answer matches .ok _) =
        [true, true, true, false, true] ∧
      (after .standard .empty twoLayers).pieces.map (·.grid.lines) =
        [[("a xx" : Text), " cd "], ["a b", " cd"]] ∧
      ∃ log, Painting .standard 0 4 2 (after .standard .empty twoLayers) log ∧
      (∀ layer ∈ log,
        (after .standard .empty twoLayers).gridOf layer.shape.1 = layer.shape.2) ∧
      ∃ canvas : Composite Nat,
        (after .standard .empty twoLayers).pieces[0]? = some (.composite canvas) ∧
        canvas.layers.length = 2 ∧
        ∀ row col, row < 2 → col < 4 → canvas.canvas.cellAt row col = topmost
          (canvas.layers.map (Layer.withMark (after .standard .empty twoLayers).gridOf))
          row col := by
  have hstart : Painting .standard 0 4 2 (after .standard .empty (twoLayers.take 1)) [] :=
    .start (by decide) (by decide) rfl
  have hletters := hstart.other (c := twoLayers[1]) rfl
  have hfirst := hletters.place (c := twoLayers[2]) ⟨rfl, rfl, rfl, rfl⟩
  have hmiddle := hfirst.place (c := twoLayers[3]) ⟨rfl, rfl, rfl, rfl⟩
  have hsecond := hmiddle.place (c := twoLayers[4]) ⟨rfl, rfl, rfl, rfl⟩
  refine ⟨by decide, by decide, _, hsecond, by decide, ?_⟩
  obtain ⟨canvas, hcanvas, hshows, hcells, -⟩ := hsecond.cells_topmost
  refine ⟨canvas, hcanvas, ?_, hcells (by decide)⟩
  rw [hshows.layers]
  rfl

end TextArt.Script
