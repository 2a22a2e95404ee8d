import TextArt.Proofs.Fill.Unknown
import TextArt.Proofs.Recipe.Atomicity
import TextArt.Proofs.Script.Settling
import TextArt.Recipe.Composition

/-!
# Unknown fill parameters in documents

A document that is run as it is hands the parameters of a fill on unchecked. With a parameter that
the fill does not have, the run stops there, whatever grid the fill has to do with: a grid that is
filled in place keeps its cells, an operation stores nothing, and no canvas comes out of a
composition. What it stops with is the `FillRegistry.Refusal` of the parameters.
-/

namespace TextArt

open FillRegistry (Refusal)
open Script (Piece Work)

variable {context : Script.Context} {name : Text} {params : Fields} {drawn : Grid}
  {cause : Failure}

/-- An entry of a document asks for a fill by name, with parameters. -/
structure AsksToFill (entry : Value) (name : Text) (params : Fields) : Prop where
  /-- The name. -/
  pattern : entry.ask "fillPattern" .null = .ok (.str name)
  /-- The parameters. -/
  params : entry.ask "fillParams" .null = .ok (.object params)

theorem truthy_of_ne_empty (hname : name ≠ "") : (Value.str name).truthy = true := by
  rw [Value.truthy, Bool.not_eq_true', ← Bool.not_eq_true, Text.isEmpty_iff]
  exact hname

theorem arguments_orElse_object (params : Fields) :
    ((Value.object params).orElse (.object [])).arguments = .ok params := by
  cases params <;> rfl

/-! ## Operations -/

namespace Recipe.Document

variable {op : Value}

/-- An operation draws a shape and asks for it to be filled. -/
structure DrawsToFill (op : Value) (drawn : Grid) (name : Text) (params : Fields) : Prop
    extends AsksToFill op name params where
  /-- It is an operation of the kind that draws. -/
  kind : op.ask "operation" .null = .ok (.str "generate")
  /-- It says what to store under. -/
  stores : ∃ store, op.need "storeAs" = .ok store
  /-- The shape can be drawn. -/
  draws : ∃ shape given, op.need "shape" = .ok shape ∧ op.ask "params" .null = .ok given ∧
    Shape.request shape (given.orElse (.object [])) = .ok drawn

private theorem DrawsToFill.generate_eq (h : DrawsToFill op drawn name params) (hname : name ≠ "")
    (index : Nat) : generate context index op =
      context.fills.apply (context.fillSettings index) (.str name) drawn params := by
  obtain ⟨shape, given, hshape, hgiven, hdrawn⟩ := h.draws
  rw [generate, hshape, ok_bind, hgiven, ok_bind, hdrawn, ok_bind, h.pattern, ok_bind,
    if_pos (truthy_of_ne_empty hname), h.params, ok_bind, arguments_orElse_object, ok_bind]

private theorem DrawsToFill.step_eq (h : DrawsToFill op drawn name params) (hname : name ≠ "")
    {index : Nat} (hfails : context.fills.apply (context.fillSettings index) (.str name) drawn
      params = .error cause) (table : SymbolTable) :
    step context table index op = .error ⟨cause, table⟩ := by
  obtain ⟨store, hstore⟩ := h.stores
  have hperform : perform? context table index "generate" op = some (.error cause) := by
    rw [show perform? context table index "generate" op =
      some ((generate context index op).map fun g ↦ (table, g)) from rfl, h.generate_eq hname,
      hfails]
    rfl
  have hkind : (Value.str "generate").isName = true := rfl
  rw [step, h.kind]
  dsimp only
  rw [hkind, Bool.not_true, if_neg Bool.false_ne_true, Value.text?]
  dsimp only
  rw [hperform]
  dsimp only
  rw [hstore]

private theorem run_of_step_error {document output : Value} {before after : List Value}
    {table : SymbolTable} (hdocument : unpack document = .ok (before ++ op :: after, output))
    (hbefore : runFrom context [] 0 before = .ok table)
    (hstep : ∀ index, step context table index op = .error ⟨cause, table⟩) (prior : SymbolTable) :
    run context prior document = .error ⟨cause, table⟩ := by
  rw [run, hdocument]
  dsimp only
  rw [runFrom_append, hbefore, ok_bind, runFrom_cons, hstep, error_bind, error_bind]

end Recipe.Document

/-! ## Compositions -/

namespace Composition

variable {entry document : Value}

/-- An entry of a composition draws a shape and asks for it to be filled. -/
structure DrawsToFill (entry : Value) (drawn : Grid) (name : Text) (params : Fields) : Prop
    extends AsksToFill entry name params where
  /-- The shape can be drawn. -/
  draws : ∃ kind given shape, entry.need "type" = .ok kind ∧ entry.ask "params" .null = .ok given ∧
    presentParams given = .ok shape ∧ Shape.request kind shape = .ok drawn

/-- A document has a canvas, and the shapes before one of its entries can be placed on it. -/
structure ReachesEntry (context : Script.Context) (document entry : Value) : Prop where
  /-- The canvas, the shapes, and what has been placed before the entry. -/
  reaches : ∃ width height canvas shapes before after placed,
    document.need "width" = .ok width ∧ document.need "height" = .ok height ∧
      Grid.requestNew width height = .ok canvas ∧
      document.ask "shapes" (.list []) = .ok shapes ∧
      shapes.parts = .ok (before ++ entry :: after) ∧
      placeDocumentFrom context 0 (.ofGrid canvas) before = .ok placed

private theorem placeDocumentFrom_append {index : Nat} {canvas : Composite Grid}
    (first rest : List Value) : placeDocumentFrom context index canvas (first ++ rest) =
      placeDocumentFrom context index canvas first >>= fun placed ↦
        placeDocumentFrom context (index + first.length) placed rest := by
  induction first generalizing index canvas with
  | nil => rfl
  | cons entry first ih =>
    rw [List.cons_append, placeDocumentFrom, placeDocumentFrom, List.length_cons,
      Nat.add_comm first.length, ← Nat.add_assoc]
    cases placeDocument context index canvas entry with
    | error cause => rfl
    | ok placed => exact ih

private theorem DrawsToFill.placeDocument_eq (h : DrawsToFill entry drawn name params)
    (hname : name ≠ "")
    {index : Nat} (hfails : context.fills.apply (context.fillSettings index) (.str name) drawn
      params = .error cause) (canvas : Composite Grid) :
    placeDocument context index canvas entry = .error cause := by
  obtain ⟨kind, given, shape, hkind, hgiven, hshape, hdrawn⟩ := h.draws
  rw [placeDocument, hkind, ok_bind, hgiven, ok_bind, hshape, ok_bind, hdrawn, ok_bind, h.pattern,
    ok_bind, if_pos (truthy_of_ne_empty hname), h.params, ok_bind, arguments_orElse_object,
    ok_bind, hfails, error_bind]

private theorem drawDocument_of_place_error (h : ReachesEntry context document entry)
    (hplace : ∀ index canvas, placeDocument context index canvas entry = .error cause) :
    drawDocument context document = .error cause := by
  obtain ⟨width, height, canvas, shapes, before, after, placed, hwidth, hheight, hcanvas, hshapes,
    hparts, hbefore⟩ := h.reaches
  rw [drawDocument, hwidth, ok_bind, hheight, ok_bind, hcanvas, ok_bind, hshapes, ok_bind, hparts,
    ok_bind, placeDocumentFrom_append, hbefore, ok_bind, placeDocumentFrom, hplace, error_bind]

end Composition

/-! ## All ways to a fill -/

variable {fill : Fill}

private theorem ne_empty_and_ne_edges_of_standard (h : fill ∈ Fill.standard) :
    fill.name ≠ "" ∧ fill.pattern ≠ .edges := by
  have hall : ∀ fill ∈ Fill.standard, fill.name ≠ "" ∧ fill.pattern ≠ .edges := by decide
  exact hall fill h

/-- **Unknown parameters.** Let a fill of the library be given a parameter that it does not have.
There is then one refusal of the parameters in which every way to the fill ends, and nothing is
painted: a piece keeps all its cells, an operation leaves the table as it is and stops the run, and
a composition stops without a canvas. The refusal reports a parameter that the fill does not have
or, in another spelling, the grid, unless a parameter has the very name of an argument of the
call.

Every other name is taken. So a capital at the beginning and the Kelvin sign are not refused: the
fill paints with the parameter that the name spells. -/
theorem unknown_parameter_refused (hfill : context.fills.find? fill.name = some fill)
    (hstandard : fill ∈ Fill.standard) :
    ((∃ q ∈ params, ¬fill.pattern.Knows q.1) →
      ∃ cause, Refusal fill.name fill.pattern params cause ∧
        (∀ p : Piece, (Work.fill context (.str fill.name) (.object params)).run p =
          .error (.failed cause) p) ∧
        (∀ op drawn, Recipe.Document.DrawsToFill op drawn fill.name params →
          (∀ table index, Recipe.Document.step context table index op = .error ⟨cause, table⟩) ∧
          ∀ prior document output before after table,
            Recipe.Document.unpack document = .ok (before ++ op :: after, output) →
            Recipe.Document.runFrom context [] 0 before = .ok table →
            Recipe.Document.run context prior document = .error ⟨cause, table⟩) ∧
        ∀ entry drawn, Composition.DrawsToFill entry drawn fill.name params →
          (∀ index canvas, Composition.placeDocument context index canvas entry = .error cause) ∧
          ∀ document, Composition.ReachesEntry context document entry →
            Composition.drawDocument context document = .error cause) ∧
    ((∀ q ∈ params, fill.pattern.Knows q.1) → ∀ settings g,
      context.fills.apply settings (.str fill.name) g params =
        fill.pattern.paint settings g (FillRegistry.converted params)) := by
  obtain ⟨hname, hpattern⟩ := ne_empty_and_ne_edges_of_standard hstandard
  refine ⟨fun hunknown ↦ ?_, FillRegistry.apply_of_knows hfill⟩
  obtain ⟨cause, hrefusal, hfails⟩ := FillRegistry.exists_refusal hfill hpattern hunknown
  refine ⟨cause, hrefusal, fun p ↦ ?_, fun op drawn hop ↦ ?_, fun entry drawn hentry ↦ ?_⟩
  · have harguments : (Value.object params).arguments = .ok params := rfl
    rw [Work.fill_eq, harguments, ok_bind, hfails]
    rfl
  · have hstep (table index) : Recipe.Document.step context table index op =
        .error ⟨cause, table⟩ := hop.step_eq hname (hfails (context.fillSettings index) drawn) table
    refine ⟨hstep, fun prior document output before after table hdocument hbefore ↦ ?_⟩
    exact Recipe.Document.run_of_step_error hdocument hbefore (hstep table) prior
  · have hplace (index canvas) : Composition.placeDocument context index canvas entry =
        .error cause := hentry.placeDocument_eq hname (hfails (context.fillSettings index) drawn)
          canvas
    exact ⟨hplace, fun document hdocument ↦
      Composition.drawDocument_of_place_error hdocument hplace⟩

/-- The fields of a frame that asks for a solid fill with the given parameters. -/
def solidFrame (params : Fields) : Fields :=
  [("params", .object [("width", .int 3), ("height", .int 3)]), ("fillPattern", .str "solid"),
    ("fillParams", .object params)]

/-- An operation that draws such a frame and stores it. -/
def solidFrameOp (params : Fields) : Value :=
  .object (("operation", .str "generate") :: ("shape", .str "rectangle") ::
    ("storeAs", .str "a") :: solidFrame params)

/-- A document with this operation. -/
def solidFrameDocument (params : Fields) : Value :=
  .object [("recipe", .list [solidFrameOp params]), ("output", .str "a")]

/-- A composition with such a frame. -/
def solidFrameComposition (params : Fields) : Value :=
  .object [("width", .int 5), ("height", .int 5),
    ("shapes", .list [.object (("type", .str "rectangle") :: solidFrame params)])]

/-- A solid fill has no parameter `bogus`, and says so in a run and in a composition. -/
theorem bogus_refused :
    let params : Fields := [("bogus", .int 1)]
    let cause : Failure := .unexpectedParameter (.str "solid") "bogus" params
    Refusal "solid" .solid params cause ∧
      Recipe.Document.run .standard [] (solidFrameDocument params) = .error ⟨cause, []⟩ ∧
      Composition.drawDocument .standard (solidFrameComposition params) = .error cause := by
  intro params cause
  have hunknown : ∃ q ∈ params, ¬Pattern.solid.Knows q.1 := by
    refine ⟨("bogus", .int 1), List.mem_cons_self, ?_⟩
    rw [Pattern.knows_iff]
    decide +kernel
  have hfill : Script.Context.standard.fills.find? "solid" =
      some ⟨"solid", "Fill every blank cell with one character", .solid⟩ := rfl
  obtain ⟨cause', hrefusal, -, hop, hentry⟩ :=
    (@unknown_parameter_refused .standard params _ hfill List.mem_cons_self).1 hunknown
  have hdraws : Recipe.Document.DrawsToFill (solidFrameOp params) _ "solid" params :=
    ⟨⟨rfl, rfl⟩, rfl, ⟨_, rfl⟩, _, _, rfl, rfl, rfl⟩
  have hplaces : Composition.DrawsToFill (.object (("type", .str "rectangle") :: solidFrame params))
      _ "solid" params := ⟨⟨rfl, rfl⟩, _, _, _, rfl, rfl, rfl, rfl⟩
  have hreaches : Composition.ReachesEntry .standard (solidFrameComposition params)
      (.object (("type", .str "rectangle") :: solidFrame params)) :=
    ⟨_, _, _, _, [], [], _, rfl, rfl, rfl, rfl, rfl, rfl⟩
  have hrun := (hop _ _ hdraws).2 [] (solidFrameDocument params) _ [] [] [] rfl rfl
  have hcause : Recipe.Document.run .standard [] (solidFrameDocument params) =
      .error ⟨cause, []⟩ := rfl
  obtain rfl : cause' = cause :=
    (Recipe.Halt.mk.inj (Except.error.inj (hrun.symm.trans hcause))).1
  exact ⟨hrefusal, hrun, (hentry _ _ hplaces).2 _ hreaches⟩

/-- A solid fill has no parameter `name` either, but its own name gets in the way: what a run and a
composition end with is not a refusal of the parameter, and not a failure that the library
reports. -/
theorem name_misused :
    let params : Fields := [("name", .str "x")]
    ¬Pattern.solid.Knows "name" ∧
      Recipe.Document.run .standard [] (solidFrameDocument params) = .error ⟨.wrongType, []⟩ ∧
      Composition.drawDocument .standard (solidFrameComposition params) = .error .wrongType ∧
      Failure.wrongType.isReported = false := by
  refine ⟨?_, rfl, rfl, rfl⟩
  rw [Pattern.knows_iff]
  decide +kernel

end TextArt
