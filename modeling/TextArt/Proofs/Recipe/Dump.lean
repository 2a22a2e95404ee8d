import TextArt.Proofs.Composite
import TextArt.Proofs.Recipe.Normalization
import TextArt.Proofs.Wire.Operation

/-!
# Running what has been spelled out

The library does not draw a checked composition or run a checked recipe as such: it spells them out
as documents again and goes through these. `Composition.drawDocument_dump` and
`Recipe.Document.run_dump` say that nothing comes of the detour. In between, no check is made, so
they hold for any fills and whatever the recipe is.
-/

namespace TextArt

/-! ## Shapes and fills -/

private theorem ShapeParams.wireForm_dump (shape : ShapeParams) : shape.dump.WireForm where
  spelled := by
    intro p hp
    cases shape <;>
      · simp only [dump, List.mem_cons, List.not_mem_nil, or_false] at hp
        rcases hp with rfl | rfl | rfl | rfl <;> · dsimp only; decide
  typed := by
    intro p hp t ht
    cases shape <;>
      · simp only [dump, List.mem_cons, List.not_mem_nil, or_false] at hp
        rcases hp with rfl | rfl | rfl | rfl <;> cases ht <;> rfl

theorem Shape.request_dump (shape : ShapeParams) :
    request (.str shape.kind.name) (.object shape.dump) = shape.draw :=
  request_of_check shape.wireForm_dump shape.check_dump

/-- What is spelled out about a fill leads to the fill. -/
private theorem FillSpec.apply_dump {registry : FillRegistry} (settings : FillSettings)
    (fill : FillSpec) (drawn : Grid) :
    (if (Value.ofText? fill.pattern).truthy then do
        let params ← ((Value.object fill.params).orElse (.object [])).arguments
        registry.apply settings (.ofText? fill.pattern) drawn params
      else .ok drawn) = fill.apply registry settings drawn := by
  have harguments : ((Value.object fill.params).orElse (.object [])).arguments =
      .ok fill.params := by
    cases fill.params <;> rfl
  rw [harguments, ok_bind, FillSpec.apply]
  cases fill.pattern with
  | none => rfl
  | some name =>
    dsimp only [Value.ofText?, Value.truthy]
    by_cases hname : name.isEmpty = true <;> simp [hname]

/-! ## Recipes -/

namespace Recipe.Document

variable {context : Context} {table : SymbolTable} {index : Nat}

private theorem generate_dump (shape : ShapeParams) (fill : FillSpec) (store : Text) :
    generate context index (Operation.dump ⟨.generate shape fill, store⟩) =
      shape.draw >>= fill.apply context.fills (context.fillSettings index) := by
  have hdefn : generate context index (Operation.dump ⟨.generate shape fill, store⟩) = (do
      let drawn ← Shape.request (.str shape.kind.name)
        ((Value.object shape.dump).orElse (.object []))
      if (Value.ofText? fill.pattern).truthy then do
        let params ← ((Value.object fill.params).orElse (.object [])).arguments
        context.fills.apply (context.fillSettings index) (.ofText? fill.pattern) drawn params
      else .ok drawn) := rfl
  have hparams : (Value.object shape.dump).orElse (.object []) = .object shape.dump := by
    cases shape <;> rfl
  rw [hdefn, hparams, Shape.request_dump]
  exact bind_congr fun drawn ↦ fill.apply_dump _ drawn

private theorem ofRequest_dump (step : Transform) : ∃ kind params : Value,
    dumpTransform step = ([("type", kind), ("params", params)] : Fields) ∧
      Transform.ofRequest kind params = .ok step := by
  cases step with
  | rotate r => cases r <;> exact ⟨_, _, rfl, rfl⟩
  | mirror a => cases a <;> exact ⟨_, _, rfl, rfl⟩
  | scale s => cases s <;> exact ⟨_, _, rfl, rfl⟩

private theorem gridOf_dump {o : Operation} {field name : Text}
    (h : o.dump.need field = .ok (.str name)) (operation : Text) :
    gridOf table index operation o.dump field =
      lookup table (.str name) index operation >>= fun g ↦ .ok (.str name, g) := by
  rw [gridOf, h, ok_bind]

/-- An operation that is spelled out does what it says. -/
theorem perform?_dump (o : Operation) :
    perform? context table index o.action.name o.dump =
      some (o.action.perform context table index) := by
  obtain ⟨action, store⟩ := o
  cases action with
  | generate shape fill =>
    rw [perform_generate, ← generate_dump shape fill store]
    rfl
  | overlay target source row col transparent char =>
    refine congrArg some ?_
    rw [overlay, gridOf_dump rfl, gridOf_dump rfl, Action.perform]
    dsimp only [Action.name]
    cases lookup table (.str target) index "overlay" with
    | error cause => rfl
    | ok t =>
      cases lookup table (.str source) index "overlay" with
      | error cause => rfl
      | ok s =>
        have hstamp := t.requestOverlay_int s row col (char.map .char) transparent
        rw [Option.map_map] at hstamp
        exact congrArg (· >>= fun stamped ↦ .ok (table.put (.str target) stamped, stamped)) hstamp
  | clip source startRow endRow startCol endCol =>
    refine congrArg some ?_
    rw [clip, gridOf_dump rfl, Action.perform]
    dsimp only [Action.name]
    cases lookup table (.str source) index "clip" with
    | error cause => rfl
    | ok s => exact congrArg (Except.map (table, ·)) (s.requestClip_int ..)
  | transform source step =>
    refine congrArg some ?_
    obtain ⟨kind, params, hdump, hrequest⟩ := ofRequest_dump step
    have hop : Operation.dump ⟨.transform source step, store⟩ =
        .object [("operation", .str "transform"), ("source", .str source), ("type", kind),
          ("params", params), ("storeAs", .str store)] := by
      rw [Operation.dump, Action.dump, hdump]
      rfl
    rw [hop, transform, gridOf_of_lookup rfl, Action.perform]
    dsimp only [Action.name]
    cases lookup table (.str source) index "transform" with
    | error cause => rfl
    | ok s =>
      exact congrArg (fun o ↦ Except.map (table, ·) (o >>= fun step ↦ .ok (s.apply step))) hrequest
  | topAppend target source =>
    exact congrArg some (append_of_lookup rfl rfl Grid.topAppend "topAppend")
  | bottomAppend target source =>
    exact congrArg some (append_of_lookup rfl rfl Grid.bottomAppend "bottomAppend")
  | centerHorizontally source targetWidth =>
    refine congrArg some ?_
    rw [center, gridOf_dump rfl, Action.perform]
    dsimp only [Action.name]
    cases lookup table (.str source) index "centerHorizontally" <;> rfl

private theorem step_dump (o : Operation) :
    step context table index o.dump =
      stored table o.storeAs (o.action.perform context table index) := by
  have hstore : ∃ fields : Fields, o.dump = .object fields ∧
      fields.lookup ("operation" : Text) = some (.str o.action.name) ∧
        fields.lookup ("storeAs" : Text) = some (.str o.storeAs) := by
    obtain ⟨action, store⟩ := o
    cases action with
    | transform source step => cases step <;> exact ⟨_, rfl, rfl, rfl⟩
    | _ => exact ⟨_, rfl, rfl, rfl⟩
  obtain ⟨fields, hfields, hname, hstore⟩ := hstore
  have hperform : perform? context table index o.action.name o.dump = _ := perform?_dump o
  rw [hfields] at hperform ⊢
  exact step_of_perform? hname hstore hperform

private theorem runFrom_dump (operations : List Operation) :
    runFrom context table index (operations.map Operation.dump) =
      Recipe.runFrom context table index operations := by
  induction operations generalizing table index with
  | nil => rfl
  | cons o rest ih =>
    rw [List.map_cons, runFrom, step_dump, runFrom_cons_eq_stored]
    exact bind_congr fun after ↦ ih

/-- **Recipes.** Running the document that a recipe dumps to is running the recipe, whatever was in
the table before. -/
theorem run_dump (context : Context) (prior : SymbolTable) (r : Recipe) :
    run context prior r.dump = Recipe.run context r := by
  have hdefn : run context prior r.dump = (do
      let table ← runFrom context [] 0 (r.operations.map Operation.dump)
      finish table (.str r.output) (r.operations.map Operation.dump).length) := rfl
  rw [hdefn, runFrom_dump, List.length_map, Recipe.run]

end Recipe.Document

/-! ## Compositions -/

namespace Composition

variable {context : Script.Context}

private theorem presentParams_dump (shape : ShapeParams) :
    presentParams (.object shape.dump) = .ok (.object shape.dump) := by
  cases shape <;> rfl

private theorem placeDocument_dump (index : Nat) (canvas : Composite Grid) (s : PlacedShape) :
    placeDocument context index canvas (dumpShape s) = place context index canvas s := by
  have hdefn : placeDocument context index canvas (dumpShape s) = (do
      let params ← presentParams (.object s.shape.dump)
      let drawn ← Shape.request (.str s.shape.kind.name) params
      let filled ← if (Value.ofText? s.fill.pattern).truthy then do
          let params ← ((Value.object s.fill.params).orElse (.object [])).arguments
          context.fills.apply (context.fillSettings index) (.ofText? s.fill.pattern) drawn params
        else .ok drawn
      let p := s.placement
      canvas.requestShape filled filled (.str p.anchor.name) (.int p.offsetRow) (.int p.offsetCol)
        (.ofText? (p.char.map fun c ↦ Text.singleton (.char c)))) := rfl
  have hchar : s.placement.char.map (fun c ↦ Text.singleton (.char c)) =
      (s.placement.char.map CodePoint.char).map Text.singleton := by
    rw [Option.map_map]
    rfl
  rw [hdefn, presentParams_dump, ok_bind, Shape.request_dump, place]
  simp only [hchar, Composite.requestShape_name]
  refine bind_congr fun drawn ↦ ?_
  rw [← FillSpec.apply_dump]
  split
  · exact (bind_assoc _ _ _).symm
  · rfl

private theorem placeDocumentFrom_dump (index : Nat) (canvas : Composite Grid)
    (shapes : List PlacedShape) :
    placeDocumentFrom context index canvas (shapes.map dumpShape) =
      placeFrom context index canvas shapes := by
  induction shapes generalizing index canvas with
  | nil => rfl
  | cons s rest ih =>
    rw [List.map_cons, placeDocumentFrom, placeFrom, placeDocument_dump]
    exact bind_congr fun next ↦ ih (index + 1) next

/-- **Compositions.** Drawing the document that a composition dumps to is drawing the
composition. -/
theorem drawDocument_dump (context : Script.Context) (c : Composition) :
    drawDocument context c.dump = c.draw context := by
  have hnew : Grid.requestNew (.int c.width.val) (.int c.height.val) =
      .ok (.blank c.width.val c.height.val c.width.property c.height.property) :=
    Shape.requestNew_positive c.width c.height
  have hdefn : drawDocument context c.dump = (do
      let canvas ← Grid.requestNew (.int c.width.val) (.int c.height.val)
      placeDocumentFrom context 0 (.ofGrid canvas) (c.shapes.map dumpShape)) := rfl
  rw [hdefn, hnew, ok_bind]
  exact placeDocumentFrom_dump 0 _ c.shapes

end Composition

end TextArt
