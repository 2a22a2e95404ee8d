import TextArt.Proofs.Fill.Repaint
import TextArt.Proofs.Recipe.Dump

/-!
# Compositions as recipes

A composition says where its shapes are; a recipe says what to do. `Composition.compile` turns the
first into the second: the canvas is a blank rectangle, and every shape is generated and stamped
onto the canvas at the place that its anchor gives.

Drawing keeps one canvas and changes it; running keeps a table with two names that are written again
and again. The two are kept in step by one invariant, that the slot `canvas` holds the canvas as it
looks now. Shapes are filled only when they are drawn, while the compiled recipe has their places in
it from the start; that is no problem because a place depends only on sizes and fills keep them.
Random words are drawn by number, and a shape has another number among the shapes than its operation
has among the operations; `shapeContext` says which two belong together. For steady fills it does
not matter which words the two start from.
-/

namespace TextArt

/-! ## Places -/

private theorem Anchor.origin_congr {canvas canvas' shape shape' : Grid} (anchor : Anchor)
    (hcw : canvas'.width = canvas.width) (hch : canvas'.height = canvas.height)
    (hsw : shape'.width = shape.width) (hsh : shape'.height = shape.height) (row col : Int) :
    anchor.origin canvas' shape' row col = anchor.origin canvas shape row col := by
  unfold origin Grid.center
  rw [hcw, hch, hsw, hsh]

private theorem Rectangle.draw_filled_blank (width height : Nat) (hw : 0 < width)
    (hh : 0 < height) :
    Rectangle.draw width height hw hh true Cell.blank = Grid.blank width height hw hh := by
  unfold Rectangle.draw Grid.blank
  simp

namespace Composition

open Recipe (Action Operation Context runFrom)

/-! ## The compiler -/

/-- The name for the canvas. -/
def canvasName : Text := "canvas"

/-- The name for the shape that is about to be stamped. -/
def shapeName : Text := "shape"

theorem width_pos (c : Composition) : 0 < c.width.val := c.width.property

theorem height_pos (c : Composition) : 0 < c.height.val := c.height.property

/-- The canvas before anything has been placed. -/
def blankCanvas (c : Composition) : Grid :=
  .blank c.width.val c.height.val c.width_pos c.height_pos

/-- The place of a shape on a canvas of the size of the given one. For parameters that cannot be
drawn there is none, and any will do. -/
def placeOn (canvas : Grid) (s : PlacedShape) : Int × Int :=
  match s.shape.draw with
  | .ok drawn =>
    s.placement.anchor.origin canvas drawn s.placement.offsetRow s.placement.offsetCol
  | .error _ => (0, 0)

/-- Generates a shape and stamps it onto the canvas. -/
def compileShape (canvas : Grid) (s : PlacedShape) : List Operation :=
  let (row, col) := placeOn canvas s
  [⟨.generate s.shape s.fill, shapeName⟩,
    ⟨.overlay canvasName shapeName row col true s.placement.char, canvasName⟩]

/-- Generates the canvas. -/
def compileCanvas (c : Composition) : Operation :=
  ⟨.generate (.rectangle c.width c.height ' ' true) ⟨none, []⟩, canvasName⟩

/-- The recipe that draws a composition. -/
def compile (c : Composition) : Recipe where
  operations := c.compileCanvas :: c.shapes.flatMap (compileShape c.blankCanvas)
  output := canvasName

/-! ## One shape -/

variable {context : Context} {table : SymbolTable}

/-- The context in which every shape starts from the random words of the operation that generates
it. -/
def shapeContext (context : Context) : Context :=
  { context with entropy := fun i ↦ context.entropy (2 * i + 1) }

/-- The canvas after a filled shape has been placed on it. -/
def stamp (canvas filled : Grid) (p : Placement) : Grid :=
  let (row, col) := p.anchor.origin canvas filled p.offsetRow p.offsetCol
  canvas.overlay filled row col (p.char.map .char) true

private theorem width_stamp (canvas filled : Grid) (p : Placement) :
    (stamp canvas filled p).width = canvas.width := Grid.width_overlay _ _ _ _ _ _

private theorem height_stamp (canvas filled : Grid) (p : Placement) :
    (stamp canvas filled p).height = canvas.height := Grid.height_overlay _ _ _ _ _ _

/-- The outcome of drawing and filling the shape of the given number. -/
def filledShape (context : Context) (i : Nat) (s : PlacedShape) : Outcome Grid :=
  s.shape.draw >>= s.fill.apply context.fills (context.fillSettings i)

private theorem place_of_filledShape (canvas : Composite Grid) {i : Nat} {s : PlacedShape}
    {filled : Grid} (h : filledShape context i s = .ok filled) :
    ∃ next, place context i canvas s = .ok next ∧
      next.canvas = stamp canvas.canvas filled s.placement := by
  obtain ⟨drawn, hdraw, hfill⟩ := bind_eq_ok.1 h
  let p := s.placement
  refine ⟨canvas.addShape filled filled p.anchor p.offsetRow p.offsetCol (p.char.map .char), ?_,
    rfl⟩
  unfold place
  rw [hdraw, ok_bind, hfill]
  rfl

private theorem place_of_filledShape_error (canvas : Composite Grid) {i : Nat} {s : PlacedShape}
    {cause : Failure} (h : filledShape context i s = .error cause) :
    place context i canvas s = .error cause := by
  unfold place
  rcases bind_eq_error.1 h with hdraw | ⟨drawn, hdraw, hfill⟩
  · rw [hdraw]
    rfl
  · rw [hdraw, ok_bind, hfill]
    rfl

private theorem placeOn_eq {canvas blank : Grid} {s : PlacedShape} {filled : Grid}
    {i : Nat} (hw : canvas.width = blank.width) (hh : canvas.height = blank.height)
    (h : filledShape context i s = .ok filled) :
    placeOn blank s =
      s.placement.anchor.origin canvas filled s.placement.offsetRow s.placement.offsetCol := by
  obtain ⟨drawn, hdraw, hfill⟩ := bind_eq_ok.1 h
  have hrepaints := FillSpec.repaints_of_apply hfill
  rw [placeOn, hdraw]
  -- filling has kept the size, on which alone the place depends
  exact (s.placement.anchor.origin_congr hw hh hrepaints.width hrepaints.height _ _).symm

/-- **One shape.** Its two operations do to the slot of the canvas what placing the shape does to
the canvas. -/
theorem runFrom_compileShape {canvas blank filled : Grid} {s : PlacedShape} (index : Nat)
    (rest : List Operation) (hw : canvas.width = blank.width) (hh : canvas.height = blank.height)
    (hcanvas : table.find? (.str canvasName) = some canvas)
    (hfilled : filledShape context index s = .ok filled) :
    ∃ next : SymbolTable, next.find? (.str canvasName) = some (stamp canvas filled s.placement) ∧
      runFrom context table index (compileShape blank s ++ rest) =
        runFrom context next (index + 2) rest := by
  have hgenerate : (Action.generate s.shape s.fill).perform context table index =
      .ok (table, filled) := by
    rw [Recipe.perform_generate]
    exact congrArg _ hfilled
  -- storing the shape leaves the slot of the canvas alone
  have hne : canvasName ≠ shapeName := by decide
  have hfound : (table.put (.str shapeName) filled).find? (.str canvasName) = some canvas := by
    rw [SymbolTable.find?_put_str_of_ne hne, hcanvas]
  have hshape := SymbolTable.find?_put_self table shapeName filled
  refine ⟨((table.put (.str shapeName) filled).put (.str canvasName) (stamp canvas filled
    s.placement)).put (.str canvasName) (stamp canvas filled s.placement),
    SymbolTable.find?_put_self _ _ _, ?_⟩
  rw [compileShape, placeOn_eq hw hh hfilled]
  dsimp only
  rw [List.cons_append, Recipe.runFrom_cons_of_ok _ hgenerate, List.cons_append,
    Recipe.runFrom_cons_of_ok _ (Recipe.perform_overlay hfound hshape)]
  rfl

private theorem runFrom_compileShape_error {blank : Grid} {s : PlacedShape} {cause : Failure}
    (index : Nat) (rest : List Operation) (h : filledShape context index s = .error cause) :
    runFrom context table index (compileShape blank s ++ rest) = .error ⟨cause, table⟩ := by
  have hgenerate : (Action.generate s.shape s.fill).perform context table index =
      .error cause := by
    rw [Recipe.perform_generate]
    exact congrArg _ h
  exact Recipe.runFrom_cons_of_error _ hgenerate

/-! ## All shapes -/

/-- **The simulation.** As long as the slot of the canvas holds the canvas, drawing the shapes and
running their operations come to the same end. -/
theorem runFrom_compileShapes (context : Context) (i : Nat) (blank : Grid)
    (shapes : List PlacedShape) (canvas : Composite Grid)
    (hw : canvas.canvas.width = blank.width) (hh : canvas.canvas.height = blank.height)
    (hcanvas : table.find? (.str canvasName) = some canvas.canvas) :
    (∃ (final : Composite Grid) (after : SymbolTable),
      placeFrom (shapeContext context) i canvas shapes = .ok final ∧
        runFrom context table (2 * i + 1) (shapes.flatMap (compileShape blank)) = .ok after ∧
          after.find? (.str canvasName) = some final.canvas) ∨
    ∃ (cause : Failure) (symbols : SymbolTable),
      placeFrom (shapeContext context) i canvas shapes = .error cause ∧
        runFrom context table (2 * i + 1) (shapes.flatMap (compileShape blank)) =
          .error ⟨cause, symbols⟩ := by
  -- shape by shape; its slot follows the canvas, two operations at a time
  induction shapes generalizing canvas table i with
  | nil => exact .inl ⟨canvas, table, rfl, rfl, hcanvas⟩
  | cons s rest ih =>
    rw [List.flatMap_cons, placeFrom]
    cases hfilled : filledShape context (2 * i + 1) s with
    | error cause =>
      right
      refine ⟨cause, table, ?_, runFrom_compileShape_error _ _ hfilled⟩
      have hplace : place (shapeContext context) i canvas s = .error cause :=
        place_of_filledShape_error canvas hfilled
      rw [hplace, error_bind]
    | ok filled =>
      obtain ⟨next, hplace, hnext⟩ : ∃ next, place (shapeContext context) i canvas s = .ok next ∧
          next.canvas = stamp canvas.canvas filled s.placement :=
        place_of_filledShape canvas hfilled
      obtain ⟨after, hafter, hrun⟩ := runFrom_compileShape (2 * i + 1)
        (rest.flatMap (compileShape blank)) hw hh hcanvas hfilled
      rw [hplace, ok_bind, hrun]
      rw [← hnext] at hafter
      refine ih (i + 1) next ?_ ?_ hafter
      · rw [hnext, width_stamp, hw]
      · rw [hnext, height_stamp, hh]

private theorem perform_compileCanvas (c : Composition) (index : Nat) :
    c.compileCanvas.action.perform context table index = .ok (table, c.blankCanvas) := by
  have hblank := Rectangle.draw_filled_blank c.width.val c.height.val c.width_pos c.height_pos
  rw [compileCanvas, Recipe.perform_generate, ShapeParams.draw, ok_bind]
  exact congrArg (fun g ↦ Except.ok (table, g)) hblank

theorem run_compile_eq (c : Composition) :
    Recipe.run context c.compile =
      (runFrom context (SymbolTable.put [] (.str canvasName) c.blankCanvas) 1
          (c.shapes.flatMap (compileShape c.blankCanvas)) >>= fun table ↦
        Recipe.finish table (.str canvasName) c.compile.operations.length) :=
  congrArg (· >>= _) (Recipe.runFrom_cons_of_ok _ (c.perform_compileCanvas 0))

/-! ## Random words -/

private theorem placeFrom_eq_of_steady {shapes : List PlacedShape}
    (h : ∀ s ∈ shapes, s.fill.Steady context.fills context.settings.render)
    (words words' : Nat → List UInt32) (index : Nat) (canvas : Composite Grid) :
    placeFrom { context with entropy := words } index canvas shapes =
      placeFrom { context with entropy := words' } index canvas shapes := by
  induction shapes generalizing index canvas with
  | nil => rfl
  | cons s rest ih =>
    have hfill := FillSpec.apply_eq_of_steady (h s List.mem_cons_self) (words index) (words' index)
    have hplace : place { context with entropy := words } index canvas s =
        place { context with entropy := words' } index canvas s := by
      simp only [place, Script.Context.fillSettings, hfill]
    rw [placeFrom, placeFrom, hplace]
    exact bind_congr fun next ↦ ih (fun s hs ↦ h s (List.mem_cons_of_mem _ hs)) (index + 1) next

private theorem draw_eq_of_steady {c : Composition}
    (h : ∀ s ∈ c.shapes, s.fill.Steady context.fills context.settings.render)
    (words words' : Nat → List UInt32) :
    c.draw { context with entropy := words } = c.draw { context with entropy := words' } :=
  placeFrom_eq_of_steady h words words' 0 _

/-! ## Drawing and running -/

private theorem run_compile_eq_draw_shapeContext (context : Context) (c : Composition) :
    ((Recipe.run context c.compile).mapError Recipe.Halt.cause).map Recipe.Result.output =
      (c.draw (shapeContext context)).map Composite.canvas := by
  have hcanvas := SymbolTable.find?_put_self [] canvasName c.blankCanvas
  have hdraw : c.draw (shapeContext context) =
      placeFrom (shapeContext context) 0 (.ofGrid c.blankCanvas) c.shapes := rfl
  rw [run_compile_eq, hdraw]
  rcases runFrom_compileShapes context 0 c.blankCanvas c.shapes (.ofGrid c.blankCanvas) rfl rfl
      hcanvas with
    ⟨final, after, hdraw, hrun, hfound⟩ | ⟨cause, symbols, hdraw, hrun⟩
  · rw [hrun, hdraw, ok_bind, Recipe.finish, Value.isName_str, if_pos rfl, hfound]
    rfl
  · rw [hrun, hdraw]
    rfl

/-- **Drawing and running agree.** Running the compiled recipe of a composition gives the canvas
that drawing the composition gives, each shape with the random words of its operation; and where one
of the two fails, the other one fails for the same reason. If all fills are steady, the two may
start from any random words, and from the documents that the recipe and the composition dump to. -/
theorem run_compile_eq_draw (context : Context) (c : Composition) :
    ((Recipe.run context c.compile).mapError Recipe.Halt.cause).map Recipe.Result.output =
        (c.draw (shapeContext context)).map Composite.canvas ∧
      ∀ (words : Nat → List UInt32) (prior : SymbolTable),
        (∀ s ∈ c.shapes, s.fill.Steady context.fills context.settings.render) →
          ((Recipe.Document.run context prior c.compile.dump).mapError Recipe.Halt.cause).map
              Recipe.Result.output =
            (drawDocument { context with entropy := words } c.dump).map Composite.canvas := by
  have hmatched := run_compile_eq_draw_shapeContext context c
  refine ⟨hmatched, fun words prior hsteady ↦ ?_⟩
  rw [Recipe.Document.run_dump, drawDocument_dump, hmatched]
  exact congrArg _ (draw_eq_of_steady hsteady _ words)

/-- A hollow square filled with dots of density one. -/
def dotted : Composition where
  width := ⟨4, by decide⟩
  height := ⟨3, by decide⟩
  shapes := [⟨.rectangle ⟨3, by decide⟩ ⟨3, by decide⟩ '*' false, centered,
    ⟨some "dots", [("density", .float 1)]⟩⟩]

/-- The dots are drawn from other random words than those the run starts from. -/
theorem dotted_run_eq_draw :
    ((Recipe.Document.run (.standardFrom fun _ ↦ [1]) [] dotted.compile.dump).mapError
        Recipe.Halt.cause).map Recipe.Result.output =
      (drawDocument (.standardFrom fun _ ↦ [2, 3]) dotted.dump).map Composite.canvas := by
  refine (run_compile_eq_draw (.standardFrom fun _ ↦ [1]) dotted).2 (fun _ ↦ [2, 3]) [] ?_
  intro s hs name fill hname hfill
  obtain rfl := List.mem_singleton.1 hs
  cases hname
  cases hfill
  refine .inr (.inr fun d hd ↦ .inr ?_)
  cases hd
  decide +kernel

end Composition

end TextArt
