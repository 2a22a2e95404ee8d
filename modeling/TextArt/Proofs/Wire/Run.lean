import TextArt.Proofs.Fill.Checked
import TextArt.Proofs.Recipe.Dump
import TextArt.Proofs.Wire.Operation

/-!
# Documents in wire form

A document in wire form that passes its check has the same outcome whether it is run as it is or
checked before: the same output, the same number of operations and the same table, or the same
cause and the same table at the end. `runFrom_of_check` is the induction over the operations, with
the table the same on both sides.
-/

namespace TextArt.Recipe

open Schema

/-- The operations of a document are in wire form, whichever spelling their list has. -/
def WireForm (document : Value) : Prop :=
  ∀ fields items, document = .object fields →
    (fields.lookup ("recipe" : Text) = some (.list items) ∨
      fields.lookup ("operations" : Text) = some (.list items)) →
    ∀ op, .object op ∈ items → WireOperation op

/-- Two runs agree if they are equal, or stop with the same table since a fill refuses the same
parameters. -/
def Agree {α : Type} (registry : FillRegistry) (a b : Except Halt α) : Prop :=
  a = b ∨ ∃ c c' symbols, registry.RefusedAlike c c' ∧ a = .error ⟨c, symbols⟩ ∧
    b = .error ⟨c', symbols⟩

theorem Agree.bind {α β : Type} {registry : FillRegistry} {a b : Except Halt α}
    (h : Agree registry a b) (f : α → Except Halt β) : Agree registry (a >>= f) (b >>= f) := by
  rcases h with rfl | ⟨c, c', symbols, halike, rfl, rfl⟩
  · exact .inl rfl
  · exact .inr ⟨c, c', symbols, halike, rfl, rfl⟩

private theorem Agree.eq {α : Type} {registry : FillRegistry} {a b : Except Halt α}
    (h : Agree registry a b) (htakes : registry.TakesChecked) : a = b := by
  rcases h with h | ⟨c, c', symbols, ⟨hnot, -⟩, -, -⟩
  · exact h
  · exact absurd htakes hnot

/-! ## Steps -/

variable {context : Context} {table : SymbolTable} {index : Nat}

private theorem stored_agree {registry : FillRegistry} {a b : Outcome (SymbolTable × Grid)}
    (h : registry.Agrees a b) (table : SymbolTable) (name : Text) :
    Agree registry (stored table name a) (stored table name b) := by
  rcases h with rfl | ⟨c, c', halike, rfl, rfl⟩
  · exact .inl rfl
  · exact .inr ⟨c, c', table, halike, rfl, rfl⟩

namespace Document

/-- **Steps.** An operation in wire form leads to the same table unchecked as checked. -/
theorem step_of_check {v : Value} {o : Operation}
    (hwire : ∀ fields, v = .object fields → WireOperation fields)
    (hcheck : checkOperation context.fills v = .ok o) :
    Agree context.fills (step context table index v)
      (stored table o.storeAs (o.action.perform context table index)) := by
  obtain ⟨fields, name, check, rfl, -, hname, hmem, hcheck⟩ := checkOperation_eq_ok hcheck
  obtain ⟨hstore, outcome, hperform, hagrees⟩ : Performs context table index name fields o :=
    perform?_of_check (hwire fields rfl) hmem hcheck
  rw [step_of_perform? hname hstore hperform]
  exact stored_agree hagrees table o.storeAs

/-- **Runs.** Operations in wire form lead from a table to the same table, or to the same halt,
unchecked as checked. -/
theorem runFrom_of_check {items : List Value} {operations : List Operation}
    (hwire : ∀ fields, .object fields ∈ items → WireOperation fields)
    (hcheck : items.map (checkOperation context.fills) = operations.map .ok) :
    Agree context.fills (runFrom context table index items)
      (Recipe.runFrom context table index operations) := by
  induction items generalizing table index operations with
  | nil =>
    obtain rfl := List.map_eq_nil_iff.1 hcheck.symm
    exact .inl rfl
  | cons v rest ih =>
    cases operations with
    | nil => cases hcheck
    | cons o operations =>
      obtain ⟨ho, hrest⟩ := List.cons.inj hcheck
      have hstep : Agree context.fills (step context table index v)
          (stored table o.storeAs (o.action.perform context table index)) :=
        step_of_check (fun fields hv ↦ hwire fields (hv ▸ List.mem_cons_self)) ho
      rw [runFrom, runFrom_cons_eq_stored]
      rcases hstep with hequal | ⟨c, c', symbols, halike, hfirst, hsecond⟩
      · -- the rest starts from the same table on both sides
        rw [hequal]
        cases stored table o.storeAs (o.action.perform context table index) with
        | error halt => exact .inl rfl
        | ok after =>
          exact ih (fun fields hfields ↦ hwire fields (List.mem_cons_of_mem v hfields)) hrest
      · rw [hfirst, hsecond]
        exact .inr ⟨c, c', symbols, halike, rfl, rfl⟩

/-! ## Documents -/

/-- What a checked document says at its top. -/
theorem unpack_of_check {registry : FillRegistry} {document : Value} {r : Recipe}
    (h : check registry document = .ok r) : ∃ fields items, document = .object fields ∧
      (fields.lookup ("recipe" : Text) = some (.list items) ∨
        fields.lookup ("operations" : Text) = some (.list items)) ∧
      items.map (checkOperation registry) = r.operations.map .ok ∧
      unpack document = .ok (items, .str r.output) := by
  obtain ⟨fields, spelling, items, output, rfl, -, hitems, hcheck, houtput, -⟩ := check_eq_ok h
  have houtput : Fields.argument fields "output" (.str "") = .str r.output := by
    rcases Fields.lookup_of_find? houtput with ⟨-, h⟩ | ⟨-, -, h⟩
    · exact Fields.argument_of_lookup h _
    · exact Fields.argument_of_lookup h _
  have hlist : (fields.lookup ("recipe" : Text) = some (.list items) ∨
      fields.lookup ("operations" : Text) = some (.list items)) ∧
      Fields.argument fields "recipe" (Fields.argument fields "operations" .null) =
        .list items := by
    rcases Fields.lookup_of_find? hitems with ⟨-, h⟩ | ⟨-, hnone, h⟩
    · exact ⟨.inl h, Fields.argument_of_lookup h _⟩
    · refine ⟨.inr h, (Fields.argument_of_lookup_none hnone _).trans ?_⟩
      exact Fields.argument_of_lookup h _
  refine ⟨fields, items, rfl, hlist.1, hcheck, ?_⟩
  unfold unpack
  dsimp only
  rw [hlist.2, houtput]
  rfl

end Document

private theorem run_document_agree {context : Context} {source : Json.Source} {document : Value}
    {r : Recipe} (hload : source.load "recipe" = .ok document)
    (hparse : parse context.fills source = .ok r) (hwire : WireForm document)
    (prior : SymbolTable) :
    Agree context.fills (Document.run context prior document) (run context r) := by
  have hcheck : check context.fills document = .ok r := by
    rw [parse, hload, ok_bind] at hparse
    exact outcome_eq_ok.1 hparse
  obtain ⟨fields, items, hfields, hlist, hitems, hunpack⟩ := Document.unpack_of_check hcheck
  have hlength : items.length = r.operations.length := by
    simpa using congrArg List.length hitems
  rw [Document.run, hunpack, run]
  dsimp only
  rw [hlength]
  exact (Document.runFrom_of_check (hwire fields items hfields hlist) hitems).bind _

/-- **Documents.** A document in wire form that passes its check has the same outcome whether it is
run as it is or checked before. Fills that have the name of one in the library and do not take its
parameters refuse them both ways, though they may name another one first. If all fills are steady,
the two runs may start from any random words, the second one from the document that the recipe dumps
to. -/
theorem run_document_of_parse {context : Context} {source : Json.Source} {document : Value}
    {r : Recipe} (hload : source.load "recipe" = .ok document)
    (hparse : parse context.fills source = .ok r) (hwire : WireForm document)
    (prior : SymbolTable) :
    Agree context.fills (Document.run context prior document) (run context r) ∧
      (context.fills.TakesChecked → Document.run context prior document = run context r) ∧
      ∀ (words : Nat → List UInt32) (prior' : SymbolTable),
        (∀ o ∈ r.operations, o.action.Steady context.fills context.settings.render) →
          Agree context.fills (Document.run context prior document)
            (Document.run { context with entropy := words } prior' r.dump) ∧
          (context.fills.TakesChecked → Document.run context prior document =
            Document.run { context with entropy := words } prior' r.dump) := by
  have hagree := run_document_agree hload hparse hwire prior
  refine ⟨hagree, hagree.eq, fun words prior' hsteady ↦ ?_⟩
  have hwords : Document.run { context with entropy := words } prior' r.dump = run context r :=
    (Document.run_dump _ prior' r).trans (run_eq_of_steady hsteady words context.entropy)
  rw [hwords]
  exact ⟨hagree, hagree.eq⟩

private theorem standard_takesChecked : FillRegistry.standard.TakesChecked := by
  intro name fields fill hfields hfill f hf
  obtain ⟨-, fields', hfields', htakes⟩ := FillSpec.standard_takes (mem_of_lookup hfill)
  obtain rfl := Option.some.inj (hfields.symm.trans hfields')
  exact htakes f hf

/-- Draws a row of two cells and fills it with dots; the density is a whole number. -/
def dottedRow : Fields :=
  [("operation", .str "generate"), ("shape", .str "rectangle"),
    ("params", .object [("width", .int 2), ("height", .int 1)]), ("fillPattern", .str "dots"),
    ("fillParams", .object [("density", .int 1)]), ("storeAs", .str "row")]

private theorem dottedRow_wireOperation : WireOperation dottedRow where
  own := ⟨by decide, by decide⟩
  inner := by
    intro name hname object hobject
    simp only [innerNames, List.mem_cons, List.not_mem_nil, or_false] at hname
    rcases hname with rfl | rfl | rfl <;> cases hobject
    exact ⟨by decide, by decide⟩
  distinct := by
    intro params hparams
    cases hparams
    decide
  typed := by
    intro pattern params hpattern hparams hlibrary
    cases hparams
    decide

/-- A document that draws just the row. -/
def dottedDocument : Value :=
  .object [("operations", .list [.object dottedRow]), ("output", .str "row")]

/-- What the check makes of it: the density becomes a double. -/
def dottedRecipe : Recipe where
  operations := [⟨.generate (.rectangle ⟨2, Nat.two_pos⟩ ⟨1, Nat.one_pos⟩ '*' false)
    ⟨some "dots", [("density", .float 1)]⟩, "row"⟩]
  output := "row"

/-- The row is the same unchecked as checked, also from other random words and by way of the
document that the recipe dumps to. -/
theorem dottedDocument_run :
    Document.run .standard [] dottedDocument = run .standard dottedRecipe ∧
      Document.run .standard [] dottedDocument =
        Document.run (.standardFrom fun _ ↦ [1, 2]) [] dottedRecipe.dump := by
  have hparse : parse Script.Context.standard.fills (.value dottedDocument) = .ok dottedRecipe := by
    rfl
  have hwire : WireForm dottedDocument := by
    intro fields items hfields hitems fields' hop
    cases hfields
    rcases hitems with hitems | hitems <;> cases hitems
    cases List.mem_singleton.1 hop
    exact dottedRow_wireOperation
  obtain ⟨-, hequal, hwords⟩ := run_document_of_parse rfl hparse hwire []
  refine ⟨hequal standard_takesChecked, (hwords (fun _ ↦ [1, 2]) [] ?_).2 standard_takesChecked⟩
  intro o ho
  obtain rfl := List.mem_singleton.1 ho
  intro name fill hname hfill
  cases hname
  cases hfill
  refine .inr (.inr fun d hd ↦ .inr ?_)
  cases hd
  decide +kernel

end TextArt.Recipe
